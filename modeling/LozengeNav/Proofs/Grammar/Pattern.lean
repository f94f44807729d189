import LozengeNav.Grammar.Pattern
import LozengeNav.Proofs.Grammar.Expression

/-! # What patterns leave

Every rule of patterns takes tokens from the front only, given that the rule for the
patterns within does.
-/

set_option synthInstance.maxSize 20000

namespace LozengeNav

namespace Grammar

namespace Pattern

open Parse

instance consumes_signedNumber : Consumes signedNumber := by
  unfold signedNumber
  infer_instance

instance consumes_number : Consumes number := by
  unfold number
  infer_instance

instance consumes_seesLiteral : Consumes seesLiteral := by
  unfold seesLiteral
  infer_instance

instance consumes_literal (r : Rules) : Consumes (literal r) := by
  unfold literal
  infer_instance

instance consumes_dots : Consumes dots := by
  unfold dots
  infer_instance

instance consumes_seesMore : Consumes seesMore := by
  unfold seesMore
  infer_instance

instance consumes_capture : Consumes capture := by
  unfold capture
  infer_instance

instance consumes_starred : Consumes starred := by
  unfold starred
  infer_instance

section Within

variable (r : Rules) (pattern : Parse Unit) [Consumes pattern]

instance consumes_maybeStarred : Consumes (maybeStarred pattern) := by
  unfold maybeStarred
  infer_instance

instance consumes_parenthesized : Consumes (parenthesized pattern) := by
  unfold parenthesized
  infer_instance

instance consumes_bracketed : Consumes (bracketed pattern) := by
  unfold bracketed
  infer_instance

instance consumes_mappingEntry : Consumes (mappingEntry r pattern) := by
  unfold mappingEntry
  infer_instance

instance consumes_braced : Consumes (braced r pattern) := by
  unfold braced
  infer_instance

instance consumes_argument : Consumes (argument pattern) := by
  unfold argument
  infer_instance

instance consumes_arguments : Consumes (arguments pattern) := by
  unfold arguments
  infer_instance

instance consumes_closed : Consumes (closed r pattern) := by
  unfold closed
  infer_instance

instance consumes_full : Consumes (full r pattern) := by
  unfold full
  infer_instance

end Within

instance consumes_ofDepth (r : Rules) (depth : Nat) : Consumes (ofDepth r depth) := by
  induction depth with
  | zero => exact consumes_failure
  | succ depth ih => exact consumes_full r (ofDepth r depth)

instance consumes_row (r : Rules) : Consumes (row r) := by
  unfold row
  infer_instance

end Pattern

end Grammar

end LozengeNav
