import LozengeNav.Proofs.ClassHeader.Opening
import LozengeNav.Proofs.Expression.Chain

/-! # The first header of a class

A header is looked for by a name that is known, and a name is read off a header
by taking the longest identifier. Behind a name that is looked for, a parenthesis
or a blank has to stand; behind a name that is read, anything stands that ends
it. So a line that is found for an identifier is read as that identifier, also
where another name begins with it, and of the lines that are read as a name those
are found that go on as a header does.
-/

namespace LozengeNav

namespace ClassHeader

variable {line name : List Char}

/-! ## Reading a name off a header -/

/-- A line is read as the identifier that stands behind the keyword, up to where it ends. -/
theorem declared?_eq_some_iff : declared? line = some name ↔
    ∃ indent gap after, line = indent ++ (classKeyword ++ (gap ++ (name ++ after))) ∧
      (∀ b ∈ indent ++ gap, Text.isBlank b = true) ∧ gap ≠ [] ∧ Text.Identifier name ∧
      ∀ c ∈ after.head?, Text.isWord c = false := by
  constructor
  · intro h
    obtain ⟨⟨indent, gap, rest⟩, hkeyword, h⟩ := Option.bind_eq_some_iff.1 h
    obtain ⟨hline, hblank⟩ := keyword?_eq_some hkeyword
    simp only at h
    split at h
    · cases h
    · next hgap =>
        obtain ⟨⟨taken, after⟩, htake, rfl⟩ := Option.map_eq_some_iff.1 h
        obtain ⟨rfl, hname, hended⟩ := Text.takeName?_eq_some_iff.1 htake
        exact ⟨indent, gap, after, hline, hblank, by simpa using hgap, hname, hended⟩
  · rintro ⟨indent, gap, after, rfl, hblank, hgap, hname, hended⟩
    obtain ⟨c, tail, hcons, hc⟩ := hname.head
    have hfirst : ∀ d ∈ (name ++ after).head?, Text.isBlank d = false := by
      simpa [hcons] using Text.isBlank_of_isWord (Text.isWord_of_isHead hc)
    unfold declared?
    rw [keyword?_of_blank hblank hfirst]
    simp [hgap, Text.takeName?_word hname hended]

theorem spellable_of_classNameAt? {place : Option Int} {name : String}
    (h : classNameAt? line place = some name) : Spellable name.toList := by
  apply spellable_of_identifier
  unfold classNameAt? at h
  cases hdeclared : declared? line with
  | some found =>
      obtain ⟨-, -, -, -, -, -, hname, -⟩ := declared?_eq_some_iff.1 hdeclared
      rw [hdeclared, Option.some.injEq] at h
      rwa [← h, String.toList_ofList]
  | none =>
      rw [hdeclared] at h
      obtain ⟨column, -, h⟩ := Option.bind_eq_some_iff.1 h
      obtain ⟨w, hw, rfl⟩ := Option.map_eq_some_iff.1 h
      rw [String.toList_ofList]
      exact Word.identifier_of_mem_scanFrom (List.mem_of_find?_eq_some hw)

theorem Heads.declared? (h : Heads line name) (hname : Text.Identifier name) :
    declared? line = some name := by
  obtain ⟨indent, gap, after, hopens⟩ := h
  obtain ⟨c, rest, rfl, hc⟩ := hopens.stopped
  refine declared?_eq_some_iff.2
    ⟨indent, gap, _, hopens.pieces, hopens.blank, hopens.parted, hname, ?_⟩
  rintro d ⟨⟩
  rcases hc with rfl | hc
  · decide
  · exact Text.isWord_of_isBlank hc

theorem Heads.classNameAt? {name : String} (h : Heads line name.toList)
    (hname : Text.Identifier name.toList) (column : Option Int) :
    classNameAt? line column = some name := by
  rw [LozengeNav.classNameAt?, h.declared? hname]
  exact congrArg some String.ofList_toList

/-! ## The first one -/

section First

variable {source : List Char} {name : String} {index : Nat}

theorem not_heads_of_lt (hname : Spellable name.toList)
    (h : classHeader? source name = some (index, line)) {i : Nat} (hi : i < index)
    {earlier : List Char} (hearlier : (Text.lines source)[i]? = some earlier) :
    ¬ Heads earlier name.toList := by
  unfold classHeader? at h
  -- The lines before the one found are those in front of it, each of them passed over.
  obtain ⟨front, ⟨found, place⟩, back, hsplit, hfound, hfront⟩ := List.findSome?_eq_some_iff.1 h
  have hplace : place = front.length := by
    have hat : (Text.lines source).zipIdx[front.length]? = some (found, place) := by simp [hsplit]
    rw [List.getElem?_zipIdx] at hat
    obtain ⟨_, -, hpair⟩ := Option.map_eq_some_iff.1 hat
    simpa using (Prod.mk.inj hpair).2.symm
  have hindex : index = place := by
    simp only at hfound
    split at hfound
    · exact (Prod.mk.inj (Option.some.inj hfound)).1.symm
    · cases hfound
  have hmem : (earlier, i) ∈ front := by
    have hat : (Text.lines source).zipIdx[i]? = some (earlier, i) := by
      rw [List.getElem?_zipIdx, hearlier]
      simp
    rw [hsplit, List.getElem?_append_left (by omega)] at hat
    exact List.mem_of_getElem? hat
  intro hheads
  have hnone := hfront _ hmem
  simp [(isSome_afterName?_iff hname).2 hheads] at hnone

theorem exists_classHeader? (hname : Spellable name.toList)
    (hline : (Text.lines source)[index]? = some line) (hheads : Heads line name.toList) :
    ∃ first ≤ index, ∃ header, classHeader? source name = some (first, header) := by
  have hsome : (classHeader? source name).isSome = true := by
    rw [classHeader?, List.findSome?_isSome_iff]
    refine ⟨(line, index), List.mem_zipIdx_iff_getElem?.2 hline, ?_⟩
    simp [(isSome_afterName?_iff hname).2 hheads]
  obtain ⟨⟨first, header⟩, hheader⟩ := Option.isSome_iff_exists.1 hsome
  refine ⟨first, Nat.le_of_not_lt fun hlt => ?_, header, hheader⟩
  exact not_heads_of_lt hname hheader hlt hline hheads

/-- The header that is found is the first one. -/
theorem classHeader?_eq_some_iff (hname : Spellable name.toList) :
    classHeader? source name = some (index, line) ↔
      (Text.lines source)[index]? = some line ∧ Heads line name.toList ∧
        ∀ i < index, ∀ earlier, (Text.lines source)[i]? = some earlier →
          ¬ Heads earlier name.toList := by
  constructor
  · intro h
    obtain ⟨hline, hfound⟩ := exists_of_classHeader? h
    exact ⟨hline, (isSome_afterName?_iff hname).1 hfound,
      fun i hi earlier => not_heads_of_lt hname h hi⟩
  · rintro ⟨hline, hheads, hfirst⟩
    obtain ⟨first, hle, header, hheader⟩ := exists_classHeader? hname hline hheads
    obtain ⟨hat, hfound⟩ := exists_of_classHeader? hheader
    have hsame : first = index := by
      refine Nat.le_antisymm hle (Nat.le_of_not_lt fun hlt => ?_)
      exact hfirst first hlt header hat ((isSome_afterName?_iff hname).1 hfound)
    subst hsame
    rw [hheader, Option.some.inj (hat.symm.trans hline)]

end First

end ClassHeader

end LozengeNav
