import LozengeNav.Grammar.Expression
import LozengeNav.Proofs.Grammar.Parse

/-! # What expressions leave

Every rule of expressions takes tokens from the front only, given that the rules for
what stands within brackets do.
-/

-- the instance for a rule holds those for all readers that it is put together from
set_option synthInstance.maxSize 20000

namespace LozengeNav

namespace Grammar

open Parse

namespace Rules

section Operators

instance consumes_chain {operand : Parse Shape} {operator : Parse Bool} [Consumes operand]
    [Consumes operator] : Consumes (chain operand operator) := by
  unfold chain
  infer_instance

instance consumes_acceptAny (texts : List String) : Consumes (acceptAny texts) := by
  unfold acceptAny
  infer_instance

instance consumes_acceptBinder : Consumes (acceptBinder) := by
  unfold acceptBinder
  infer_instance

instance consumes_arithmetic : Consumes (arithmetic) := by
  unfold arithmetic
  infer_instance

instance consumes_comparator : Consumes (comparator) := by
  unfold comparator
  infer_instance

instance consumes_seesFor : Consumes (seesFor) := by
  unfold seesFor
  infer_instance

variable (primary : Parse Shape) [Consumes primary]

instance consumes_factor : Consumes (factor primary) := by
  unfold factor
  infer_instance

instance consumes_sum : Consumes (sum primary) := by
  unfold sum
  infer_instance

instance consumes_disjunction : Consumes (disjunction primary) := by
  unfold disjunction
  infer_instance

instance consumes_starOr {other : Parse Shape} [Consumes other] :
    Consumes (starOr primary other) := by
  unfold starOr
  infer_instance

instance consumes_targets : Consumes (targets primary) := by
  unfold targets
  infer_instance

instance consumes_comprehension : Consumes (comprehension primary) := by
  unfold comprehension
  infer_instance

end Operators

section Brackets

variable (r : Rules) [Consumes r.expression]

instance consumes_named : Consumes (r.named) := by
  unfold named
  infer_instance

instance consumes_argument (stage : Stage) : Consumes (r.argument stage) := by
  unfold argument
  infer_instance

instance consumes_moreArguments (fuel : Nat) (stage : Stage) :
    Consumes (r.moreArguments fuel stage) := by
  induction fuel generalizing stage with
  | zero => exact consumes_failure
  | succ fuel ih =>
      unfold moreArguments
      infer_instance

instance consumes_arguments : Consumes (r.arguments) := by
  unfold arguments
  infer_instance

instance consumes_sliceBounds : Consumes (r.sliceBounds) := by
  unfold sliceBounds
  infer_instance

instance consumes_item : Consumes (r.item) := by
  unfold item
  infer_instance

instance consumes_items : Consumes (r.items) := by
  unfold items
  infer_instance

variable (primary : Parse Shape) [Consumes primary]

instance consumes_call : Consumes (r.call primary) := by
  unfold call
  infer_instance

instance consumes_starNamed : Consumes (r.starNamed primary) := by
  unfold starNamed
  infer_instance

instance consumes_starExpression : Consumes (r.starExpression primary) := by
  unfold starExpression
  infer_instance

instance consumes_starExpressions : Consumes (r.starExpressions primary) := by
  unfold starExpressions
  infer_instance

instance consumes_yielded : Consumes (r.yielded primary) := by
  unfold yielded
  infer_instance

instance consumes_parenthesized : Consumes (r.parenthesized primary) := by
  unfold parenthesized
  infer_instance

instance consumes_bracketed : Consumes (r.bracketed primary) := by
  unfold bracketed
  infer_instance

instance consumes_entry : Consumes (r.entry primary) := by
  unfold entry
  infer_instance

instance consumes_moreEntries : Consumes (r.moreEntries primary) := by
  unfold moreEntries
  infer_instance

instance consumes_braced : Consumes (r.braced primary) := by
  unfold braced
  infer_instance

omit [Consumes r.expression] in
instance consumes_literals : Consumes r.literals := by
  unfold literals
  infer_instance

instance consumes_atom : Consumes (r.atom primary) := by
  unfold atom
  infer_instance

instance consumes_trailer : Consumes (r.trailer primary) := by
  unfold trailer
  infer_instance

instance consumes_primaryOf : Consumes (r.primaryOf primary) := by
  unfold primaryOf
  infer_instance

end Brackets

section Parameters

instance consumes_annotation (annotated : Bool) {value : Parse Shape} [Consumes value] :
    Consumes ( annotation annotated value) := by
  unfold annotation
  infer_instance

variable (r : Rules) [Consumes r.expression]

instance consumes_plainParameter (annotated : Bool) : Consumes (r.plainParameter annotated) := by
  unfold plainParameter
  infer_instance

variable (primary : Parse Shape) [Consumes primary]

instance consumes_starParameter (annotated : Bool) : Consumes (r.starParameter primary annotated) := by
  unfold starParameter
  infer_instance

instance consumes_parameter (annotated : Bool) (room : Room) :
    Consumes (r.parameter primary annotated room) := by
  unfold parameter
  cases room <;> infer_instance

instance consumes_parametersFrom (annotated : Bool) (close : String) (fuel : Nat) (room : Room) :
    Consumes (r.parametersFrom primary annotated close fuel room) := by
  induction fuel generalizing room with
  | zero => exact consumes_failure
  | succ fuel ih =>
      unfold parametersFrom
      infer_instance

instance consumes_parameters (annotated : Bool) (close : String) :
    Consumes (r.parameters primary annotated close) := by
  unfold parameters
  infer_instance

instance consumes_expressionOf : Consumes (r.expressionOf primary) := by
  unfold expressionOf
  infer_instance

end Parameters

end Rules

theorem consumes_tower (field : List Char → Bool) (depth : Nat) :
    Consumes (tower field depth).1 ∧ Consumes (tower field depth).2 := by
  induction depth with
  | zero => exact ⟨consumes_failure, consumes_failure⟩
  | succ depth ih =>
      obtain ⟨hprimary, hexpression⟩ := ih
      let inner := tower field depth
      have : Consumes (Rules.mk inner.2 field).expression := hexpression
      have hprimary : Consumes inner.1 := hprimary
      have houter : Consumes ((Rules.mk inner.2 field).primaryOf inner.1) := inferInstance
      exact ⟨houter, inferInstanceAs (Consumes (Rules.expressionOf _ _))⟩

end Grammar

end LozengeNav
