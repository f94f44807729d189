import LozengeNav.Proofs.ClassHeader.Opening
import LozengeNav.Proofs.Expression.Chain

/-! # Flat headers

A header whose entries are dotted names and keyword arguments is read exactly:
its bases are the dotted names other than the root of all classes, in order, each
at the column of its last word. Blanks may stand around every entry and around
every dot.
-/

namespace LozengeNav

namespace ClassHeader

/-! ## What a flat header is written from -/

/-- A word of a dotted name, with the dot behind it and the blanks around the dot. -/
structure Segment where
  name : List Char
  before : List Char
  behind : List Char
  identifier : Text.Identifier name
  blank : ∀ b ∈ before ++ behind, Text.isBlank b = true

def Segment.text (s : Segment) : List Char :=
  s.name ++ (s.before ++ '.' :: s.behind)

/-- A dotted name: its last word and the segments in front of it. -/
structure DottedName where
  front : List Segment
  last : List Char
  identifier : Text.Identifier last

namespace DottedName

def lead (d : DottedName) : List Char :=
  d.front.flatMap Segment.text

def text (d : DottedName) : List Char :=
  d.lead ++ d.last

/-- The name without blanks. -/
def spelling (d : DottedName) : String :=
  String.ofList (['.'].intercalate (d.front.map Segment.name ++ [d.last]))

end DottedName

/-- What a flat header lists: a dotted name, or a keyword and a value. -/
inductive FlatEntry where
  | base (name : DottedName)
  | keyword (key value : List Char) (plain : ∀ c ∈ key ++ value, c ≠ ',' ∧ c ≠ ')')

def FlatEntry.text : FlatEntry → List Char
  | base name => name.text
  | keyword key value _ => key ++ '=' :: value

/-- An entry with the blanks around it. -/
structure Slot where
  left : List Char
  entry : FlatEntry
  right : List Char
  blank : ∀ b ∈ left ++ right, Text.isBlank b = true

namespace Slot

def text (s : Slot) : List Char :=
  s.left ++ (s.entry.text ++ s.right)

/-- The base of an entry that stands behind `front` on its line. -/
def base? (index : Nat) (root : String) (front : List Char) (s : Slot) : Option BaseReference :=
  match s.entry with
  | .base name =>
      if name.spelling = root then none
      else some ⟨name.spelling, index, (front ++ (s.left ++ name.lead)).length⟩
  | .keyword .. => none

/-- The bases of entries that stand behind `front` on their line, a comma behind each. -/
def bases (index : Nat) (root : String) : List Char → List Slot → List BaseReference
  | _, [] => []
  | front, s :: rest =>
      (s.base? index root front).toList ++ bases index root (front ++ (s.text ++ [','])) rest

end Slot

def flatList (slots : List Slot) : List Char :=
  [','].intercalate (slots.map Slot.text)

/-! ## Reading a dotted name -/

section DottedName

variable {right : List Char}

theorem reads_of_blank {left s : List Char} {column : Nat} {chains : List Chain}
    (hleft : ∀ b ∈ left, Text.isBlank b = true)
    (h : Chain.Reads (column + left.length) s chains) : Chain.Reads column (left ++ s) chains := by
  induction left generalizing column with
  | nil => exact h
  | cons b left ih =>
      obtain ⟨hb, hleft⟩ := List.forall_mem_cons.1 hleft
      refine .skip (Text.isHead_of_not_isWord (Text.isWord_of_isBlank hb)) (ih hleft ?_)
      have hcolumn : column + 1 + left.length = column + (b :: left).length := by
        rw [List.length_cons]
        omega
      rwa [hcolumn]

theorem DottedName.exists_linked (front : List Segment) {last : List Char}
    (hlast : Text.Identifier last) (hright : ∀ b ∈ right, Text.isBlank b = true) (column : Nat) :
    ∃ name run words, front.flatMap Segment.text ++ last = name ++ run ∧ Text.Identifier name ∧
      Chain.Linked (column + name.length) run right words ∧
      name :: words.map Word.text = front.map Segment.name ++ [last] ∧
      (words.getLastD ⟨name, column⟩).start = column + (front.flatMap Segment.text).length := by
  -- The induction is on the segments: each is a word and a link to the next one.
  induction front generalizing column with
  | nil =>
      refine ⟨last, [], [], by simp, hlast, .stop ?_ ?_, rfl, rfl⟩
      · rintro ⟨gap, space, c, rest, hshape, -⟩
        have hdot := hright '.' (by simp [hshape])
        exact absurd hdot (by decide)
      · intro c hc
        exact Text.isWord_of_isBlank (hright c (List.mem_of_mem_head? hc))
  | cons s front ih =>
      obtain ⟨name, run, words, htext, hname, hlinked, hwords, hstart⟩ :=
        ih (column + s.text.length)
      have hcolumn : column + s.text.length =
          column + s.name.length + s.before.length + 1 + s.behind.length := by
        simp only [Segment.text, List.length_append, List.length_cons]
        omega
      rw [hcolumn] at hlinked hstart
      refine ⟨s.name, s.before ++ '.' :: (s.behind ++ (name ++ run)), _, ?_, s.identifier,
        .link s.blank hname hlinked, ?_, ?_⟩
      · rw [← htext, List.flatMap_cons, Segment.text]
        simp
      · rw [List.map_cons, hwords, List.map_cons, List.cons_append]
      · rw [List.getLastD_cons, hstart, List.flatMap_cons, List.length_append]
        omega

theorem DottedName.exists_scan (d : DottedName) {left : List Char}
    (hblank : ∀ b ∈ left ++ right, Text.isBlank b = true) :
    ∃ c, Chain.scan (left ++ (d.text ++ right)) = [c] ∧
      String.ofList (Chain.spell c.words) = d.spelling ∧
      c.last.start = (left ++ d.lead).length := by
  obtain ⟨hleft, hright⟩ := List.forall_mem_append.1 hblank
  obtain ⟨name, run, words, htext, hname, hlinked, hwords, hstart⟩ :=
    exists_linked d.front d.identifier hright (0 + left.length)
  have hrest : ∀ column, Chain.Reads column right [] := by
    intro column
    have hreads : Chain.Reads column (right ++ []) [] := reads_of_blank hright .nil
    rwa [List.append_nil] at hreads
  have hchain : Chain.Reads (0 + left.length) (d.text ++ right)
      [⟨⟨name, 0 + left.length⟩, words⟩] := by
    rw [text, lead, htext, List.append_assoc]
    exact .chain hname hlinked (hrest _)
  refine ⟨⟨⟨name, 0 + left.length⟩, words⟩, (reads_of_blank hleft hchain).scanFrom_eq, ?_, ?_⟩
  · rw [Chain.spell, Chain.words, List.map_cons, hwords, spelling]
  · rw [Chain.last, hstart, List.length_append, Nat.zero_add]
    rfl

end DottedName

/-! ## Reading an entry -/

section Slots

variable {c : Char} {index : Nat} {root : String} {front : List Char}

theorem not_mem_of_blank {blanks : List Char} (hc : Text.Wall c)
    (h : ∀ b ∈ blanks, Text.isBlank b = true) : c ∉ blanks := by
  intro hmem
  have hblank := h c hmem
  simp [hc.2.1] at hblank

theorem DottedName.not_mem_of_wall (d : DottedName) (hc : Text.Wall c) : c ∉ d.text := by
  have hname : ∀ {name : List Char}, Text.Identifier name → c ∉ name := by
    intro name h hmem
    have hword := h.word c hmem
    simp [hc.1] at hword
  intro hmem
  rcases List.mem_append.1 hmem with hmem | hmem
  · obtain ⟨s, -, hmem⟩ := List.mem_flatMap.1 hmem
    have hspace := not_mem_of_blank hc s.blank
    simp_all [Segment.text, hname s.identifier, hc.2.2]
  · exact hname d.identifier hmem

theorem Slot.not_mem (s : Slot) (hc : Text.Wall c) (hend : c = ',' ∨ c = ')') : c ∉ s.text := by
  have hentry : c ∉ s.entry.text := by
    cases s.entry with
    | base name => exact name.not_mem_of_wall hc
    | keyword key value plain =>
        have hvalue : c ∉ key ++ value := by
          intro hmem
          have hplain := plain c hmem
          rcases hend with rfl | rfl <;> simp at hplain
        have hequals : c ≠ '=' := by
          rcases hend with rfl | rfl <;> decide
        simpa [FlatEntry.text, hequals] using hvalue
  have hspace := not_mem_of_blank hc s.blank
  simp_all [Slot.text]

theorem base?_text (s : Slot) :
    ClassHeader.base? root index (front.length, s.text) = s.base? index root front := by
  obtain ⟨left, entry, right, hblank⟩ := s
  cases entry with
  | keyword key value plain =>
      have hequals : (Slot.text ⟨left, .keyword key value plain, right, hblank⟩).contains '=' = true := by
        simp [Slot.text, FlatEntry.text]
      simp only [ClassHeader.base?, hequals, Slot.base?, if_true]
  | base name =>
      have hclear : ∀ c, Text.Wall c → c ∉ Slot.text ⟨left, .base name, right, hblank⟩ := by
        intro c hc
        have hname := name.not_mem_of_wall hc
        have hspace := not_mem_of_blank hc hblank
        simp_all [Slot.text, FlatEntry.text]
      have hequals : (Slot.text ⟨left, .base name, right, hblank⟩).contains '=' = false := by
        simpa using hclear '=' (by decide)
      obtain ⟨chain, hscan, hspell, hstart⟩ := name.exists_scan hblank
      have hchain : Chain.scan (Slot.text ⟨left, .base name, right, hblank⟩) = [chain] := hscan
      simp only [ClassHeader.base?, hequals, takeWhile_ne_of_not_mem (hclear '[' (by decide)),
        hchain, Slot.base?, List.head?_cons, hspell, hstart, List.length_append]
      rfl

theorem filterMap_base?_place (slots : List Slot) :
    (place front.length (slots.map Slot.text)).filterMap (ClassHeader.base? root index) =
      Slot.bases index root front slots := by
  induction slots generalizing front with
  | nil => rfl
  | cons s rest ih =>
      have hcolumn : front.length + s.text.length + 1 = (front ++ (s.text ++ [','])).length := by
        simp only [List.length_append, List.length_singleton]
        omega
      rw [List.map_cons, place, hcolumn, Slot.bases, ← ih, List.filterMap_cons, base?_text]
      cases s.base? index root front <;> rfl

end Slots

/-! ## Reading a header -/

/-- A header whose entries are dotted names and keyword arguments lists exactly
the dotted names other than the root, each where its last word stands. -/
theorem baseList_flat (o : Opening) (slots : List Slot) (behind : List Char) (index : Nat)
    (root : String) :
    baseList index (o.line (flatList slots) behind) (String.ofList o.name) root =
      Slot.bases index root o.text slots := by
  have hpieces : ∀ {c}, Text.Wall c → (c = ',' ∨ c = ')') → ∀ p ∈ slots.map Slot.text, c ∉ p := by
    intro c hc hend p hp
    obtain ⟨s, -, rfl⟩ := List.mem_map.1 hp
    exact s.not_mem hc hend
  have hfree : ')' ∉ flatList slots :=
    not_mem_intercalate (by decide) (hpieces (by decide) (.inr rfl))
  rw [o.baseList_line, takeWhile_ne_of_not_mem hfree, entries, flatList]
  cases slots with
  | nil => simp [Slot.bases, place, base?, Chain.scan, Chain.scanFrom]
  | cons s rest =>
      rw [List.splitOn_intercalate ',' (hpieces (by decide) (.inl rfl)) (by simp)]
      exact filterMap_base?_place (s :: rest)

def shopOpening : Opening where
  indent := [' ']
  gap := ['\t']
  name := "Shop".toList
  space := [' ']
  blank := List.all_eq_true.1 (by decide)
  parted := by decide
  spellable := spellable_of_identifier (by decide)

/-- A dotted name with blanks around its dot, a keyword argument and two plain names. -/
def shopSlots : List Slot :=
  let tools : Segment :=
    ⟨"tools".toList, ['\u2003'], [' '], by decide, List.all_eq_true.1 (by decide)⟩
  [⟨[' '], .base ⟨[tools], "Base".toList, by decide⟩, [' '], List.all_eq_true.1 (by decide)⟩,
    ⟨[], .keyword "metaclass".toList "Meta".toList (by simp), [], List.all_eq_true.1 (by decide)⟩,
    ⟨['\t'], .base ⟨[], "Context".toList, by decide⟩, [], List.all_eq_true.1 (by decide)⟩,
    ⟨[], .base ⟨[], "Mixin".toList, by decide⟩, [' '], List.all_eq_true.1 (by decide)⟩]

/-- The keyword argument and the root are no bases; the blanks around the dot are in no name. -/
theorem baseList_flat_shop :
    baseList 3 " class\tShop ( tools\u2003. Base ,metaclass=Meta,\tContext,Mixin ): # )".toList
      "Shop" "Context" = [⟨"tools.Base", 3, 22⟩, ⟨"Mixin", 3, 52⟩] := by
  have hline : shopOpening.line (flatList shopSlots) ": # )".toList =
      " class\tShop ( tools\u2003. Base ,metaclass=Meta,\tContext,Mixin ): # )".toList := by
    decide
  rw [← hline]
  exact (baseList_flat shopOpening shopSlots _ 3 "Context").trans (by decide)

end ClassHeader

end LozengeNav
