import LozengeNav.ModuleName
import LozengeNav.Proofs.Path
import Mathlib.Data.List.Basic

/-! # Dotted names and their parts

The parts of a dotted name hold no dot, and a name is spelled out of parts
without dots in one way only. A relative import keeps some parts of the name of
its module and puts the name behind its dots after them.
-/

namespace LozengeNav

namespace ModuleName

theorem not_mem_of_mem_pieces {name part : String} (h : part ∈ pieces name) :
    '.' ∉ part.toList := by
  obtain ⟨piece, hpiece, rfl⟩ := List.mem_map.1 h
  rw [String.toList_ofList]
  exact Text.not_mem_of_mem_splitOn hpiece

theorem pieces_eq_singleton {part : String} (h : '.' ∉ part.toList) : pieces part = [part] := by
  rw [pieces, List.splitOn_eq_singleton h, List.map_singleton, String.ofList_toList]

theorem pieces_append_dot (s u : String) : pieces (s ++ "." ++ u) = pieces s ++ pieces u := by
  have hlist : (s ++ "." ++ u).toList = s.toList ++ '.' :: u.toList := by simp
  rw [pieces, hlist, List.splitOn_append_cons_self, List.map_append]
  rfl

theorem spell_cons_cons (first second : String) (rest : List String) :
    spell (first :: second :: rest) = first ++ "." ++ spell (second :: rest) := by
  rw [spell, String.intercalate_cons_cons]
  rfl

theorem pieces_spell {parts : List String} (hne : parts ≠ [])
    (h : ∀ part ∈ parts, '.' ∉ part.toList) : pieces (spell parts) = parts := by
  induction parts with
  | nil => exact absurd rfl hne
  | cons first rest ih =>
      have hfirst := pieces_eq_singleton (h first List.mem_cons_self)
      cases rest with
      | nil => rwa [spell, String.intercalate_singleton]
      | cons second others =>
          have hrest := ih (List.cons_ne_nil _ _) fun part hpart =>
            h part (List.mem_cons_of_mem _ hpart)
          rw [spell_cons_cons, pieces_append_dot, hfirst, hrest]
          rfl

theorem pieces_spell_cons (name : String) {tail : List String}
    (h : ∀ part ∈ tail, '.' ∉ part.toList) : pieces (spell (name :: tail)) = pieces name ++ tail := by
  cases tail with
  | nil => rw [spell, String.intercalate_singleton, List.append_nil]
  | cons first rest =>
      rw [spell_cons_cons, pieces_append_dot, pieces_spell (List.cons_ne_nil _ _) h]

theorem pieces_ne_nil (name : String) : pieces name ≠ [] := by
  simp [pieces, List.splitOn_ne_nil]

theorem spell_concat {parts : List String} (hne : parts ≠ []) (last : String) :
    spell (parts ++ [last]) = spell parts ++ "." ++ last := by
  induction parts with
  | nil => exact absurd rfl hne
  | cons first rest ih =>
      cases rest with
      | nil => rfl
      | cons second others =>
          have htail := ih (List.cons_ne_nil _ _)
          rw [List.cons_append, List.cons_append, spell_cons_cons, ← List.cons_append, htail,
            spell_cons_cons]
          simp only [String.append_assoc]

theorem spell_pieces (name : String) : spell (pieces name) = name := by
  apply String.toList_inj.1
  have hparts : (pieces name).map String.toList = name.toList.splitOn '.' := by
    simp [pieces, Function.comp_def]
  rw [spell, String.toList_intercalate, hparts]
  exact List.intercalate_splitOn '.'

/-! ## Relative imports -/

/-- How many parts of the name of its module a relative import takes away. -/
def dropped (level : Nat) (isPackage : Bool) : Nat :=
  if isPackage then level - 1 else level

/-- The parts of the name of its module that a relative import keeps. -/
def kept (importing : String) (level : Nat) (isPackage : Bool) : List String :=
  (components importing).take ((components importing).length - dropped level isPackage)

section Relative

variable {importing name : String} {level : Nat} {isPackage : Bool}

theorem relativeTo_of_name (hname : name ≠ "")
    (hdrop : dropped level isPackage ≤ (components importing).length) :
    relativeTo importing name level isPackage =
      spell (kept importing level isPackage ++ [name]) := by
  have hexceeds := Nat.not_lt.2 hdrop
  unfold dropped at hexceeds
  simp [relativeTo, kept, dropped, hexceeds, hname]

theorem relativeTo_of_exceeds (hname : name ≠ "")
    (hdrop : (components importing).length < dropped level isPackage) :
    relativeTo importing name level isPackage = name := by
  unfold dropped at hdrop
  simp [relativeTo, hdrop, hname]

/-- Dots alone mean what is left of the name, and the whole name if nothing is left. -/
theorem relativeTo_of_dots (hdrop : dropped level isPackage ≤ (components importing).length) :
    relativeTo importing "" level isPackage =
      if kept importing level isPackage = [] then importing
      else spell (kept importing level isPackage) := by
  have hexceeds := Nat.not_lt.2 hdrop
  unfold dropped at hexceeds
  simp [relativeTo, kept, dropped, hexceeds]

end Relative

/-! ## Modules of files -/

/-- A name that a part of a module name can spell. -/
structure Undotted (s : String) : Prop where
  nonempty : s ≠ ""
  noSlash : '/' ∉ s.toList
  noDot : '.' ∉ s.toList

instance (s : String) : Decidable (Undotted s) :=
  decidable_of_iff (s ≠ "" ∧ '/' ∉ s.toList ∧ '.' ∉ s.toList)
    ⟨fun h => ⟨h.1, h.2.1, h.2.2⟩, fun h => ⟨h.nonempty, h.noSlash, h.noDot⟩⟩

/-- The directories that are left when a leading source directory is left out. -/
def packagesOf : List String → List String
  | "src" :: rest => rest
  | directories => directories

/-- The parts of the name of the module in a file, by the directories on the way
to the file and its name without the suffix. -/
def partsOf (directories : List String) (stem : String) : List String :=
  if stem = "__init__" then packagesOf directories else packagesOf directories ++ [stem]

section OfPath

variable {directories : List String} {stem : String}

theorem mem_of_mem_packagesOf {name : String} (h : name ∈ packagesOf directories) :
    name ∈ directories := by
  unfold packagesOf at h
  split at h
  · exact List.mem_cons_of_mem _ h
  · exact h

/-- Above a file, the directories are those of its module, behind the source
directory if that is among them. -/
theorem exists_lead (directories : List String) {level : Nat}
    (hinside : level ≤ directories.length + 1) :
    ∃ lead, (lead = [] ∨ lead = ["src"]) ∧
      directories.take (directories.length + 1 - level) =
        lead ++ (packagesOf directories).take ((packagesOf directories).length + 1 - level) := by
  unfold packagesOf
  split
  · next rest =>
      simp only [List.length_cons] at hinside ⊢
      by_cases hwhole : level = rest.length + 2
      · have hnone : rest.length + 1 + 1 - level = 0 := by omega
        have hnone' : rest.length + 1 - level = 0 := by omega
        exact ⟨[], .inl rfl, by simp [hnone, hnone']⟩
      · have hcount : rest.length + 1 + 1 - level = (rest.length + 1 - level) + 1 := by omega
        exact ⟨["src"], .inr rfl, by rw [hcount, List.take_succ_cons]; rfl⟩
  · exact ⟨[], .inl rfl, rfl⟩

theorem dropSourceRoot_concat (directories : List String) (file : String) :
    dropSourceRoot (directories ++ [file]) = packagesOf directories ++ [file] := by
  unfold packagesOf
  split
  · next rest => cases rest <;> rfl
  · next hsource =>
      unfold dropSourceRoot
      split
      · next part rest heq =>
          cases directories with
          | nil => simp at heq
          | cons first others =>
              rw [List.cons_append, List.cons.injEq] at heq
              rw [heq.1] at hsource
              exact absurd rfl (hsource others)
      · rfl

theorem dropSuffix_source (stem : String) : dropSuffix (stem ++ ".py") = stem := by
  have hlist : (stem ++ ".py").toList = stem.toList ++ ['.', 'p', 'y'] := by simp
  have hends : Text.endsWith (stem ++ ".py").toList ['.', 'p', 'y'] = true := by
    rw [hlist, Text.endsWith, List.isPrefixOf_iff_prefix, List.reverse_prefix]
    exact List.suffix_append _ _
  have hlength : (stem ++ ".py").length - 3 = stem.toList.length := by
    rw [← String.length_toList, hlist]
    simp
  rw [dropSuffix, if_pos hends, hlength, hlist, List.take_left, String.ofList_toList]

theorem nameLast_concat (names : List String) (stem : String) :
    nameLast (names ++ [stem ++ ".py"]) = if stem = "__init__" then names else names ++ [stem] := by
  rw [nameLast, List.getLast?_concat]
  simp only [dropSuffix_source, List.dropLast_concat]

theorem pathParts_intercalate {names : List String}
    (hnames : ∀ name ∈ names, name ≠ "" ∧ '/' ∉ name.toList ∧ '\\' ∉ name.toList)
    (hne : names ≠ []) : pathParts ("/".intercalate names) = names := by
  have hplain : ("/".intercalate names).toList.map (fun c => if c = '\\' then '/' else c) =
      ("/".intercalate names).toList := by
    have hback : ∀ c ∈ ("/".intercalate names).toList, (if c = '\\' then '/' else c) = c := by
      intro c hc
      refine if_neg ?_
      rintro rfl
      rcases Path.mem_of_mem_intercalate hc with hslash | ⟨part, hpart, hmem⟩
      · cases hslash
      · exact (hnames part hpart).2.2 hmem
    rw [List.map_congr_left (g := id) hback, List.map_id]
  have hsplit : ("/".intercalate names).toList.splitOn '/' = names.map String.toList := by
    have hpieces : ∀ piece ∈ names.map String.toList, '/' ∉ piece := by
      intro piece hpiece
      obtain ⟨name, hname, rfl⟩ := List.mem_map.1 hpiece
      exact (hnames name hname).2.1
    rw [String.toList_intercalate]
    exact List.splitOn_intercalate '/' hpieces (by simpa using hne)
  have hkept : ∀ name ∈ names,
      (if name.toList.isEmpty then none else some (String.ofList name.toList)) = some name := by
    intro name hname
    simp [(hnames name hname).1]
  rw [pathParts, hplain, hsplit, List.filterMap_map]
  exact (List.filterMap_congr hkept).trans List.filterMap_some

theorem ofPath_source
    (hdirectories : ∀ name ∈ directories, name ≠ "" ∧ '/' ∉ name.toList ∧ '\\' ∉ name.toList)
    (hstem : '/' ∉ stem.toList ∧ '\\' ∉ stem.toList) :
    ofPath ("/".intercalate (directories ++ [stem ++ ".py"])) = spell (partsOf directories stem) := by
  have hnames : ∀ name ∈ directories ++ [stem ++ ".py"],
      name ≠ "" ∧ '/' ∉ name.toList ∧ '\\' ∉ name.toList := by
    intro name hname
    rcases List.mem_append.1 hname with hdirectory | hfile
    · exact hdirectories name hdirectory
    · rw [List.mem_singleton] at hfile
      subst hfile
      refine ⟨fun h => ?_, by simp [hstem.1], by simp [hstem.2]⟩
      have hlist := congrArg String.toList h
      simp at hlist
  rw [ofPath, pathParts_intercalate hnames (by simp), dropSourceRoot_concat, nameLast_concat]
  rfl

/-- Parts without a dot are the components of the name that they spell. A single
empty part is lost. -/
theorem components_spell {parts : List String} (hparts : ∀ part ∈ parts, '.' ∉ part.toList) :
    components (spell parts) = if parts = [""] then [] else parts := by
  by_cases hnil : parts = []
  · subst hnil
    rfl
  · by_cases hempty : parts = [""]
    · subst hempty
      rfl
    · have hspelled : spell parts ≠ "" := by
        intro h
        have hpieces := pieces_spell hnil hparts
        rw [h] at hpieces
        exact hempty hpieces.symm
      rw [components, if_neg (by simpa using hspelled), pieces_spell hnil hparts, if_neg hempty]

theorem kept_source {level : Nat} (hdirectories : ∀ name ∈ directories, Undotted name)
    (hstem : '.' ∉ stem.toList) (hlevel : 1 ≤ level) :
    kept (spell (partsOf directories stem)) level (stem = "__init__") =
      (packagesOf directories).take ((packagesOf directories).length + 1 - level) := by
  have hpackages : ∀ name ∈ packagesOf directories, Undotted name := fun name hname =>
    hdirectories name (mem_of_mem_packagesOf hname)
  have hparts : ∀ part ∈ partsOf directories stem, '.' ∉ part.toList := by
    intro part hpart
    unfold partsOf at hpart
    split at hpart
    · exact (hpackages part hpart).noDot
    · rcases List.mem_append.1 hpart with hpackage | hlast
      · exact (hpackages part hpackage).noDot
      · rw [List.mem_singleton] at hlast
        rwa [hlast]
  rw [kept, components_spell hparts]
  by_cases hpackage : stem = "__init__"
  · have hsingle : packagesOf directories ≠ [""] := by
      intro h
      exact (hpackages "" (by simp [h])).nonempty rfl
    have hcount : (packagesOf directories).length - (level - 1) =
        (packagesOf directories).length + 1 - level := by omega
    simp [partsOf, hpackage, hsingle, dropped, hcount]
  · -- A file without a stem in the root has an empty name, of which no part is kept.
    by_cases hsingle : packagesOf directories ++ [stem] = [""]
    · have hnil : packagesOf directories = [] := by
        cases hlist : packagesOf directories with
        | nil => rfl
        | cons first rest => simp [hlist] at hsingle
      have hempty : stem = "" := by simpa [hnil] using hsingle
      simp [partsOf, hnil, hempty]
    · have hcount : (packagesOf directories).length + 1 - level ≤
          (packagesOf directories).length := by omega
      simp [partsOf, hpackage, hsingle, dropped, List.take_append_of_le_length hcount]

/-- A relative import of a file means the name behind the directories that lie
its level above the file. -/
theorem pieces_relativeTo_source {relative : String} {level : Nat}
    (hdirectories : ∀ name ∈ directories, Undotted name) (hstem : '.' ∉ stem.toList)
    (hrelative : relative ≠ "") (hlevel : 1 ≤ level) :
    pieces (relativeTo (spell (partsOf directories stem)) relative level (stem = "__init__")) =
      (packagesOf directories).take ((packagesOf directories).length + 1 - level) ++
        pieces relative := by
  have hkept := kept_source hdirectories hstem hlevel
  by_cases hdrop : dropped level (stem = "__init__") ≤
      (components (spell (partsOf directories stem))).length
  · rw [relativeTo_of_name hrelative hdrop, hkept]
    by_cases hnil : (packagesOf directories).take ((packagesOf directories).length + 1 - level) = []
    · rw [hnil, List.nil_append, List.nil_append, spell, String.intercalate_singleton]
    · rw [spell_concat hnil, pieces_append_dot, pieces_spell hnil]
      intro part hpart
      have hpackage := mem_of_mem_packagesOf (List.mem_of_mem_take hpart)
      exact (hdirectories part hpackage).noDot
  · have hexceeds := Nat.lt_of_not_le hdrop
    have hnil : (packagesOf directories).take ((packagesOf directories).length + 1 - level) = [] := by
      rw [← hkept, kept, Nat.sub_eq_zero_of_le (Nat.le_of_lt hexceeds), List.take_zero]
    rw [relativeTo_of_exceeds hrelative hexceeds, hnil, List.nil_append]

end OfPath

end ModuleName

end LozengeNav
