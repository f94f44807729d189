import LozengeNav.Proofs.Files.Plain
import LozengeNav.Proofs.Files.Sources

/-! # Names that a file pattern finds

The plain characters at the beginning of a pattern stand for themselves, so a
pattern without wildcards stands for one name. A search of all directories below
a directory for a name finds the files whose names the pattern stands for.
-/

namespace LozengeNav

namespace Wildcard

open Glob (isWild)

/-! ## Plain beginnings -/

theorem pieces_append {front : List Char}
    (h : (front.any fun c => c = '*' || c = '?' || c = '[') = false) (s : List Char) :
    pieces 0 (front ++ s) = front.map .char ++ pieces 0 s := by
  induction front with
  | nil => rfl
  | cons c front ih =>
      simp only [List.any_cons, Bool.or_eq_false_iff, decide_eq_false_iff_not] at h
      obtain ⟨⟨⟨hstar, hmark⟩, hbracket⟩, hfront⟩ := h
      have hrest := ih (by simpa using hfront)
      rw [List.cons_append, pieces, if_neg hstar, if_neg hmark, if_neg hbracket, hrest, List.map_cons,
        List.cons_append]

theorem accepts_chars_append (front : List Char) (parts : List Piece) (s : List Char) :
    accepts (front.map .char ++ parts) s = true ↔
      ∃ ending, s = front ++ ending ∧ accepts parts ending = true := by
  induction front generalizing s with
  | nil => simp
  | cons c front ih =>
      rw [List.map_cons, List.cons_append]
      cases s with
      | nil => simp [accepts]
      | cons d rest =>
          rw [accepts, Bool.and_eq_true, ih, Piece.admits, decide_eq_true_iff]
          · constructor
            · rintro ⟨rfl, ending, rfl, hending⟩
              exact ⟨ending, rfl, hending⟩
            · rintro ⟨ending, heq, hending⟩
              obtain ⟨rfl, rfl⟩ := List.cons.inj heq
              exact ⟨rfl, ending, rfl, hending⟩
          · intro hrun
            cases hrun

/-- A pattern with a plain beginning stands for the names with this beginning of which the rest of
the pattern stands for the rest. -/
theorem fits_append {front : String} (h : isWild front = false) (pattern name : String) :
    fits (front ++ pattern) name = true ↔
      ∃ ending, name = front ++ ending ∧ fits pattern ending = true := by
  rw [fits, String.toList_append, pieces_append h, accepts_chars_append]
  constructor
  · rintro ⟨ending, hname, hending⟩
    refine ⟨String.ofList ending, String.toList_inj.1 ?_, by rwa [fits, String.toList_ofList]⟩
    rw [String.toList_append, String.toList_ofList, hname]
  · rintro ⟨ending, rfl, hending⟩
    exact ⟨ending.toList, String.toList_append, hending⟩

/-- A pattern without wildcards stands for one name. -/
theorem fits_iff_eq {pattern : String} (h : isWild pattern = false) (name : String) :
    fits pattern name = true ↔ name = pattern := by
  have hself : pattern = pattern ++ "" := (String.append_empty ..).symm
  rw [hself, fits_append h]
  have hempty : ∀ ending, fits "" ending = true ↔ ending = "" := by
    intro ending
    have hpieces : pieces 0 "".toList = ([] : List Char).map .char := rfl
    rw [fits, hpieces, accepts_chars, eq_comm, String.toList_eq_nil_iff]
  constructor
  · rintro ⟨ending, rfl, hending⟩
    rw [(hempty ending).1 hending]
  · rintro rfl
    exact ⟨"", rfl, (hempty "").2 rfl⟩

end Wildcard

namespace Path

theorem name_child (p : Path) (name : String) : (p.child name).name = name := by
  simp [Path.name, child]

theorem parent_child (p : Path) (name : String) : (p.child name).parent = p := by
  simp [parent, child]

end Path

namespace Glob

variable {t : FileTree} {file : String}

theorem ofString_everywhere (h : Path.IsName file) :
    Pattern.ofString ("**/" ++ file) =
      (Segment.ofString file).map fun segment => ⟨[.directories, segment], false⟩ := by
  have hwritten : "**/" ++ file = "/".intercalate ["**", file] := by
    rw [String.intercalate_cons_cons, String.intercalate_singleton]
    rfl
  have hparts : (Path.ofString ("**/" ++ file)).parts = ["**", file] := by
    rw [hwritten, Path.ofString]
    refine Path.partsOf_intercalate fun part hpart => ?_
    rcases List.mem_pair.1 hpart with rfl | rfl
    · decide
    · exact h
  have habsolute : (Path.ofString ("**/" ++ file)).isAbsolute = false := by
    have hhead : ("**/" ++ file).toList.head? ≠ some '/' := by
      have hstars : "**/".toList = ['*', '*', '/'] := rfl
      rw [String.toList_append, hstars]
      simp
    rw [Path.isAbsolute, Path.ofString, Path.anchorOf_of_head? hhead]
    rfl
  have hlast : ¬ ("**/" ++ file).toList.getLast? = some '/' := by
    intro hlast
    rw [String.toList_append, List.getLast?_append_of_ne_nil _ (by simpa using h.1)] at hlast
    exact h.2.1 (List.mem_of_getLast? hlast)
  have hempty : ("**/" ++ file).isEmpty = false := by
    rw [← Bool.not_eq_true, String.isEmpty_iff, ← String.toList_eq_nil_iff, String.toList_append]
    exact List.append_ne_nil_of_left_ne_nil (by decide) _
  have hfirst : Segment.ofString "**" = .ok .directories := rfl
  rw [Pattern.ofString, hempty]
  simp only [habsolute, hparts, List.mapM_cons, List.mapM_nil, hfirst, decide_eq_false hlast]
  cases Segment.ofString file <;> rfl

/-- What the last part of a pattern finds in a directory has a name that it stands for. -/
theorem fits_of_mem_select {segment : Segment} (hsegment : Segment.ofString file = .ok segment)
    (hname : segment ≠ .directories) {p q : Path} {found : List Path}
    (h : select t false [segment] p = .ok found) (hq : q ∈ found) :
    ∃ name, q = p.child name ∧ Wildcard.fits file name = true := by
  unfold Segment.ofString at hsegment
  split at hsegment
  · cases hsegment
    exact absurd rfl hname
  · split at hsegment
    · cases hsegment
    · split at hsegment
      · cases hsegment
        obtain ⟨entries, -, e, -, htaken, inner, hinner, hq⟩ := mem_select_wildcard h hq
        cases hinner
        obtain rfl := List.mem_singleton.1 hq
        exact ⟨e.1, rfl, Except.ok.inj htaken⟩
      · next hplain =>
          cases hsegment
          obtain ⟨inner, hinner, hq⟩ := mem_select_name h hq
          cases hinner
          obtain rfl := List.mem_singleton.1 hq
          exact ⟨file, rfl, (Wildcard.fits_iff_eq (by simpa using hplain) file).2 rfl⟩

/-- A search of all directories for a name finds files with names that it stands for. -/
theorem fits_of_mem_find (hfile : Path.IsName file) (hstars : file ≠ "**") {root q : Path}
    {found : List Path} (h : find t root ("**/" ++ file) = .ok found) (hq : q ∈ found) :
    hasDouble file.toList = false ∧ Wildcard.fits file q.name = true := by
  rw [find, ofString_everywhere hfile] at h
  obtain ⟨pattern, hpattern, h⟩ := Fault.ok_of_bind_eq_ok h
  obtain ⟨isDirectory, -, h⟩ := Fault.ok_of_bind_eq_ok h
  cases hsegment : Segment.ofString file with
  | error fault =>
      rw [hsegment] at hpattern
      cases hpattern
  | ok segment =>
      rw [hsegment] at hpattern
      cases hpattern
      have hdouble : hasDouble file.toList = false := by
        rw [Segment.ofString, if_neg hstars] at hsegment
        cases hdouble : hasDouble file.toList with
        | false => rfl
        | true =>
            rw [if_pos hdouble] at hsegment
            cases hsegment
      have hname : segment ≠ .directories := by
        rintro rfl
        rw [Segment.ofString, if_neg hstars, if_neg (by simp [hdouble])] at hsegment
        split at hsegment <;> cases hsegment
      cases isDirectory with
      | false =>
          cases h
          cases hq
      | true =>
          obtain ⟨starts, -, next, -, inner, hinner, hq⟩ := mem_select_directories h hq
          obtain ⟨name, rfl, hfits⟩ := fits_of_mem_select hsegment hname hinner hq
          rw [Path.name_child]
          exact ⟨hdouble, hfits⟩

end Glob

end LozengeNav
