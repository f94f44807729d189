import LozengeNav.Imports
import LozengeNav.Proofs.Grammar.Statement
import LozengeNav.Proofs.NameTable

/-! # Imports in the order of a source

A module binds what its imports outside of functions and classes bind, statement by
statement. As the keywords of these statements follow each other in the source,
to sort the bindings by line leaves them as they are: what a name means is decided
by the last import of it in the source.
-/

namespace LozengeNav

open Grammar Grammar.Statement

namespace ImportBinding

/-! ## The statements of a module -/

/-- The statements that no function or class is around, in pre-order. -/
def outer (statements : List Statement) : List Statement :=
  ((occurrencesAll false statements).filter fun o => !o.inner).map Occurrence.statement

/-- What a statement binds apart from the statements within it. -/
def own : Statement → List ImportBinding
  | .importModules line modules => modules.map (ofModule line)
  | .importMembers line level module members => members.filterMap (ofMember? line level module)
  | _ => []

mutual

theorem filter_occurrences_true (s : Statement) :
    (occurrences true s).filter (fun o => !o.inner) = [] := by
  match s with
  | .importModules .. => rfl
  | .importMembers .. => rfl
  | .other => rfl
  | .definition body => simp [occurrences, filter_occurrencesAll_true body]
  | .block children => simp [occurrences, filter_occurrencesAll_true children]

theorem filter_occurrencesAll_true (statements : List Statement) :
    (occurrencesAll true statements).filter (fun o => !o.inner) = [] := by
  match statements with
  | [] => rfl
  | s :: rest =>
      simp [occurrencesAll, filter_occurrences_true s, filter_occurrencesAll_true rest]

end

theorem outer_append (front back : List Statement) :
    outer (front ++ back) = outer front ++ outer back := by
  simp [outer, occurrencesAll_append]

theorem outer_block (children : List Statement) :
    outer [.block children] = .block children :: outer children := by
  simp [outer, occurrencesAll, occurrences]

theorem outer_definition (body : List Statement) :
    outer [.definition body] = [.definition body] := by
  simp [outer, occurrencesAll, occurrences, filter_occurrencesAll_true]

mutual

theorem ofStatement_eq_flatMap (s : Statement) : ofStatement s = (outer [s]).flatMap own := by
  match s with
  | .importModules .. => simp [ofStatement, outer, occurrencesAll, occurrences, own]
  | .importMembers .. => simp [ofStatement, outer, occurrencesAll, occurrences, own]
  | .other => simp [ofStatement, outer, occurrencesAll, occurrences, own]
  | .definition body => simp [ofStatement, outer_definition, own]
  | .block children =>
      simp [ofStatement, outer_block, own, ofStatements_eq_flatMap children]

theorem ofStatements_eq_flatMap (statements : List Statement) :
    ofStatements statements = (outer statements).flatMap own := by
  match statements with
  | [] => rfl
  | s :: rest =>
      have hcons : outer (s :: rest) = outer [s] ++ outer rest := outer_append [s] rest
      rw [hcons, List.flatMap_append, ofStatements, ofStatement_eq_flatMap s,
        ofStatements_eq_flatMap rest]

end

theorem ofStatements_append (front back : List Statement) :
    ofStatements (front ++ back) = ofStatements front ++ ofStatements back := by
  simp [ofStatements_eq_flatMap, outer_append]

/-! ## A stack of statements -/

theorem length_occurrences_pos (s : Statement) : 0 < (occurrences false s).length := by
  cases s <;> simp [occurrences]

/-- The bindings of statements that are taken off a stack, where the statements of a
block take its place. -/
def walk : List Statement → List ImportBinding
  | [] => []
  | .block children :: rest => walk (children ++ rest)
  | s :: rest => own s ++ walk rest
termination_by stack => (occurrencesAll false stack).length
decreasing_by
  · simp [occurrencesAll, occurrences, occurrencesAll_append]
  · rw [occurrencesAll, List.length_append]
    exact Nat.lt_add_of_pos_left (length_occurrences_pos s)

theorem walk_eq_ofStatements (stack : List Statement) : walk stack = ofStatements stack := by
  induction stack using walk.induct with
  | case1 => simp [walk, ofStatements]
  | case2 children rest ih => simp [walk, ih, ofStatements, ofStatement, ofStatements_append]
  | case3 s rest hblock ih =>
      cases s with
      | block children => exact absurd rfl (hblock children)
      | _ => simp [walk, ih, own, ofStatements, ofStatement]

/-! ## The order of lines -/

theorem line_of_mem_own {s : Statement} {b : ImportBinding} (h : b ∈ own s) :
    ∃ t, s.keyword? = some t ∧ b.line = t.line := by
  cases s with
  | importModules line modules =>
      obtain ⟨a, -, rfl⟩ := List.mem_map.1 h
      refine ⟨_, rfl, ?_⟩
      unfold ofModule
      split <;> rfl
  | importMembers line level module members =>
      obtain ⟨a, -, ha⟩ := List.mem_filterMap.1 h
      refine ⟨_, rfl, ?_⟩
      unfold ofMember? at ha
      split at ha
      · cases ha
      · cases ha
        rfl
  | definition body => cases h
  | block children => cases h
  | other => cases h

theorem member_ne_star_of_mem_own {s : Statement} {b : ImportBinding} (h : b ∈ own s) :
    b.member ≠ some star := by
  cases s with
  | importModules line modules =>
      obtain ⟨a, -, rfl⟩ := List.mem_map.1 h
      unfold ofModule
      split <;> simp
  | importMembers line level module members =>
      obtain ⟨a, -, ha⟩ := List.mem_filterMap.1 h
      unfold ofMember? at ha
      split at ha
      · cases ha
      · next hstar =>
          cases ha
          simpa using hstar
  | definition body => cases h
  | block children => cases h
  | other => cases h

theorem outer_keywords_sublist (statements : List Statement) :
    ((outer statements).filterMap keyword?).Sublist (keywords statements) := by
  rw [outer, List.filterMap_map]
  exact List.filter_sublist.filterMap _

theorem ofStatements_lines {source : List Char} {statements : List Statement}
    (h : ofSource? source = some statements) :
    (ofStatements statements).Pairwise fun a b => a.line ≤ b.line := by
  obtain ⟨tokens, htokens, hsublist⟩ := ofSource?_keywords h
  have hkeywords := (tokens?_lines htokens).sublist
    ((outer_keywords_sublist statements).trans hsublist)
  rw [ofStatements_eq_flatMap, List.pairwise_flatMap]
  constructor
  · intro s _
    refine List.pairwise_of_forall_mem_list fun a ha b hb => ?_
    obtain ⟨t, ht, hline⟩ := line_of_mem_own ha
    obtain ⟨u, hu, hline'⟩ := line_of_mem_own hb
    cases ht.symm.trans hu
    exact Nat.le_of_eq (hline.trans hline'.symm)
  · refine (List.pairwise_filterMap.1 hkeywords).imp fun {s s'} hle a ha b hb => ?_
    obtain ⟨t, ht, hline⟩ := line_of_mem_own ha
    obtain ⟨u, hu, hline'⟩ := line_of_mem_own hb
    rw [hline, hline']
    exact hle t ht u hu

theorem importsOf_eq_ofStatements {source : List Char} {statements : List Statement}
    (h : ofSource? source = some statements) : importsOf source = ofStatements statements := by
  rw [importsOf, h]
  exact List.mergeSort_of_pairwise (by simpa using ofStatements_lines h)

end ImportBinding

/-! ## Names by their last import -/

open ImportBinding

/-- A module that is well-formed binds what its imports outside of functions and classes
bind, one after the other in the order of the source, and a stack lists the same. A name
means what the last import of it binds, else a local class or function, else nothing. -/
theorem names_of_last_import {source : List Char} {statements : List Statement}
    (hparsed : ofSource? source = some statements) :
    importsOf source = (outer statements).flatMap own ∧
      walk statements = importsOf source ∧
      (∀ b ∈ importsOf source, b.member ≠ some star) ∧
      (∃ tokens, tokens? source = some tokens ∧ (keywords statements).Sublist tokens ∧
        ((outer statements).filterMap keyword?).Sublist (keywords statements)) ∧
      ∀ module isPackage outline,
        (∀ earlier b later, importsOf source = earlier ++ b :: later →
          (∀ c ∈ later, c.name ≠ b.name) →
          (NameTable.build module isPackage outline (importsOf source)).get? b.name =
            some (NameTable.ofImport module isPackage b)) ∧
        ∀ name, (∀ b ∈ importsOf source, b.name ≠ name) →
          (NameTable.Defines outline name →
            (NameTable.build module isPackage outline (importsOf source)).get? name =
              some ⟨name, NameTable.qualify module name, .definition⟩) ∧
          (¬ NameTable.Defines outline name →
            (NameTable.build module isPackage outline (importsOf source)).get? name = none) := by
  have himports := importsOf_eq_ofStatements hparsed
  have hflat := ofStatements_eq_flatMap statements
  obtain ⟨tokens, htokens, hsublist⟩ := ofSource?_keywords hparsed
  refine ⟨himports.trans hflat, (walk_eq_ofStatements statements).trans himports.symm, ?_,
    ⟨tokens, htokens, hsublist, outer_keywords_sublist statements⟩, ?_⟩
  · intro b hb
    rw [himports, hflat] at hb
    obtain ⟨s, -, hown⟩ := List.mem_flatMap.1 hb
    exact member_ne_star_of_mem_own hown
  · intro module isPackage outline
    constructor
    · intro earlier b later hsplit hlast
      rw [hsplit]
      exact NameTable.get?_build_of_last hlast
    · intro name hnot
      exact NameTable.get?_build_of_not_imported hnot

/-- A module that imports one name three times, in a block and in a function too. -/
def rebinding : List Char :=
  "import b\nif b:\n    from a import *\n    import a as b\ndef f():\n    from c import b\n".toList

/-- The import in the block is the last one that counts. -/
theorem names_of_rebinding :
    ∃ statements, ofSource? rebinding = some statements ∧
      (NameTable.build "m" false [] (importsOf rebinding)).get? "b" =
        some ⟨"b", "a", .moduleImport⟩ := by
  have hread : (ofSource? rebinding).map ofStatements =
      some [⟨"b", "b", none, 0, 1⟩, ⟨"b", "a", none, 0, 4⟩] := by
    decide +kernel
  obtain ⟨statements, hstatements, hof⟩ := Option.map_eq_some_iff.1 hread
  have himports : importsOf rebinding =
      [⟨"b", "b", none, 0, 1⟩] ++ ⟨"b", "a", none, 0, 4⟩ :: [] :=
    (importsOf_eq_ofStatements hstatements).trans hof
  obtain ⟨-, -, -, -, hnames⟩ := names_of_last_import hstatements
  exact ⟨statements, hstatements, (hnames "m" false []).1 _ _ _ himports (by simp)⟩

end LozengeNav
