import LozengeNav.Proofs.Outline.Node
import Mathlib.Data.List.Basic

/-! # The definitions of a source in their scopes

An outline lists the definitions of a source that stand in no function, and names for
each the nearest class around it, whatever blocks are between the two.
-/

namespace LozengeNav

namespace Outline

/-! ## Definitions in their places -/

/-- A definition in its place: the definitions around it, the innermost first. -/
structure Scoped where
  declaration : Declaration
  span : Span
  around : List Declaration

/-- The name of the innermost class among the definitions around a place. -/
def classAround? (around : List Declaration) : Option String :=
  (around.find? fun d => d.kind == .type).map Declaration.name

def inFunction (around : List Declaration) : Bool :=
  around.any fun d => d.kind == .function

/-- The entry of a definition in an outline: a function is a method if a class is around it. -/
def Scoped.entry (x : Scoped) : OutlineSymbol where
  name := x.declaration.name
  kind :=
    if x.declaration.kind = .function ∧ ∃ d ∈ x.around, d.kind = .type then .method
    else x.declaration.kind
  span := x.span
  selection := x.declaration.place
  container := classAround? x.around

theorem isSome_classAround? (around : List Declaration) :
    (classAround? around).isSome = true ↔ ∃ d ∈ around, d.kind = .type := by
  simp [classAround?]

namespace Node

/-- What a node declares. -/
def declaration : Node → Option Declaration
  | mk declaration _ _ => declaration

def inside : Node → List Node
  | mk _ _ children => children

mutual

/-- The definitions of a node inside others, in pre-order, those in functions too. -/
def definitions (around : List Declaration) : Node → List Scoped
  | mk none _ children => definitionsAll around children
  | mk (some d) span children => ⟨d, span, around⟩ :: definitionsAll (d :: around) children

/-- The definitions of some nodes inside others, in pre-order. -/
def definitionsAll (around : List Declaration) : List Node → List Scoped
  | [] => []
  | node :: rest => definitions around node ++ definitionsAll around rest

end

theorem definitionsAll_eq_flatMap (around : List Declaration) (nodes : List Node) :
    definitionsAll around nodes = nodes.flatMap (definitions around) := by
  induction nodes with
  | nil => rfl
  | cons node rest ih => rw [definitionsAll, List.flatMap_cons, ih]

theorem mem_definitions {around : List Declaration} {n : Node} {x : Scoped}
    (h : x ∈ n.definitions around) :
    (∃ d, n.declaration = some d ∧ x = ⟨d, n.span, around⟩) ∨
      ∃ m ∈ n.inside, x ∈ m.definitions (n.declaration.toList ++ around) := by
  match n with
  | mk none span children =>
      rw [definitions, definitionsAll_eq_flatMap, List.mem_flatMap] at h
      exact .inr h
  | mk (some d) span children =>
      rw [definitions, definitionsAll_eq_flatMap, List.mem_cons, List.mem_flatMap] at h
      exact h.imp_left fun hx => ⟨d, rfl, hx⟩

mutual

theorem filter_definitions_of_inFunction {around : List Declaration}
    (h : inFunction around = true) (node : Node) :
    (node.definitions around).filter (fun x => !inFunction x.around) = [] := by
  match node with
  | mk none span children => exact filter_definitionsAll_of_inFunction h children
  | mk (some d) span children =>
      have hbelow : inFunction (d :: around) = true := by
        rw [inFunction, List.any_cons, ← inFunction, h, Bool.or_true]
      rw [definitions, List.filter_cons, filter_definitionsAll_of_inFunction hbelow children]
      simp [h]

theorem filter_definitionsAll_of_inFunction {around : List Declaration}
    (h : inFunction around = true) (nodes : List Node) :
    (definitionsAll around nodes).filter (fun x => !inFunction x.around) = [] := by
  match nodes with
  | [] => rfl
  | node :: rest =>
      rw [definitionsAll, List.filter_append, filter_definitions_of_inFunction h node,
        filter_definitionsAll_of_inFunction h rest, List.append_nil]

end

mutual

theorem symbols_eq_map {around : List Declaration} (h : inFunction around = false) (node : Node)
    (hkinds : ∀ x ∈ node.definitions around, x.declaration.kind ≠ .method) :
    node.symbols (classAround? around) =
      ((node.definitions around).filter fun x => !inFunction x.around).map Scoped.entry := by
  match node with
  | mk none span children => exact symbolsAll_eq_map h children hkinds
  | mk (some d) span children =>
      obtain ⟨hkind, hchildren⟩ := List.forall_mem_cons.mp hkinds
      have hentry : symbol d span (classAround? around) = Scoped.entry ⟨d, span, around⟩ := by
        simp only [symbol, Scoped.entry, Bool.and_eq_true, decide_eq_true_eq, isSome_classAround?]
      rw [symbols, definitions, List.filter_cons]
      simp only [h, Bool.not_false, if_true, List.map_cons, hentry]
      cases hd : d.kind with
      | type =>
          have hbelow : inFunction (d :: around) = false := by
            rw [inFunction, List.any_cons, ← inFunction, h, hd]
            rfl
          have hclass : classAround? (d :: around) = some d.name := by
            simp [classAround?, hd]
          rw [if_pos rfl, ← symbolsAll_eq_map hbelow children hchildren, hclass]
      | function =>
          have hbelow : inFunction (d :: around) = true := by
            simp [inFunction, hd]
          rw [filter_definitionsAll_of_inFunction hbelow children, if_neg (by simp)]
          rfl
      | method => exact absurd hd hkind

theorem symbolsAll_eq_map {around : List Declaration} (h : inFunction around = false)
    (nodes : List Node)
    (hkinds : ∀ x ∈ definitionsAll around nodes, x.declaration.kind ≠ .method) :
    symbolsAll (classAround? around) nodes =
      ((definitionsAll around nodes).filter fun x => !inFunction x.around).map Scoped.entry := by
  match nodes with
  | [] => rfl
  | node :: rest =>
      rw [definitionsAll, List.forall_mem_append] at hkinds
      rw [symbolsAll, definitionsAll, List.filter_append, List.map_append,
        symbols_eq_map h node hkinds.1, symbolsAll_eq_map h rest hkinds.2]

end

mutual

theorem exists_definition (around : List Declaration) {container : Option String} {n : Node}
    {s : OutlineSymbol} (h : s ∈ n.symbols container) :
    ∃ x ∈ n.definitions around, s.span = x.span ∧ s.selection = x.declaration.place := by
  match n with
  | mk none span children => exact exists_definition_all around h
  | mk (some d) span children =>
      rcases List.mem_cons.mp h with rfl | hs
      · exact ⟨_, List.mem_cons_self, rfl, rfl⟩
      · split at hs
        · obtain ⟨x, hx, hsame⟩ := exists_definition_all (d :: around) hs
          exact ⟨x, List.mem_cons_of_mem _ hx, hsame⟩
        · cases hs

theorem exists_definition_all (around : List Declaration) {container : Option String}
    {nodes : List Node} {s : OutlineSymbol} (h : s ∈ symbolsAll container nodes) :
    ∃ x ∈ definitionsAll around nodes, s.span = x.span ∧ s.selection = x.declaration.place := by
  match nodes with
  | [] => cases h
  | n :: rest =>
      rcases List.mem_append.mp h with hs | hs
      · obtain ⟨x, hx, hsame⟩ := exists_definition around hs
        exact ⟨x, List.mem_append_left _ hx, hsame⟩
      · obtain ⟨x, hx, hsame⟩ := exists_definition_all around hs
        exact ⟨x, List.mem_append_right _ hx, hsame⟩

end

end Node

end Outline

end LozengeNav
