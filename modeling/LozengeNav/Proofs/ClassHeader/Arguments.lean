import LozengeNav.Grammar.Statement
import LozengeNav.Proofs.ClassHeader.BaseList

/-! # What a header lists and what is read as a base

The arguments of a class are positional, keywords or an unpacked mapping, and the
name of a positional one ends at its first bracket. The list is read without
regard to brackets and parentheses: each comma parts it, also one within an
argument, and the first closing parenthesis ends it. The names read are those of
positional arguments exactly when what begins elsewhere names no base.
-/

namespace LozengeNav

namespace ClassHeader

/-- An argument of a class, as it is written between commas. -/
inductive Argument where
  | positional (text : List Char)
  | keyword (key value : List Char)
  | unpacked (space mapping : List Char)

namespace Argument

def text : Argument → List Char
  | positional text => text
  | keyword key value => key ++ '=' :: value
  | unpacked space mapping => space ++ '*' :: '*' :: mapping

/-- The part that names a base: of a positional argument what stands before a bracket. -/
def name? : Argument → Option (List Char)
  | positional text => some (text.takeWhile (· ≠ '['))
  | keyword .. => none
  | unpacked .. => none

/-- The references in the name of an argument that begins at a column. -/
def references (index column : Nat) (a : Argument) : List BaseReference :=
  match a.name? with
  | some name => (Chain.scan name).map fun c =>
      ⟨String.ofList (Chain.spell c.words), index, column + c.last.start⟩
  | none => []

/-- An argument without commas and parentheses that unpacks no mapping. -/
structure Plain (a : Argument) : Prop where
  comma : ',' ∉ a.text
  left : '(' ∉ a.text
  right : ')' ∉ a.text
  packed : ∀ space mapping, a ≠ unpacked space mapping

end Argument

/-- The list of a header with its arguments, a comma between two. -/
def listed (arguments : List Argument) : List Char :=
  [','].intercalate (arguments.map Argument.text)

/-- The arguments of a list that begins at a column, each where it begins. -/
def placed (column : Nat) : List Argument → List (Nat × Argument)
  | [] => []
  | a :: rest => (column, a) :: placed (column + a.text.length + 1) rest

/-- The references in the names of positional arguments. -/
def positionals (index column : Nat) (arguments : List Argument) : List BaseReference :=
  (placed column arguments).flatMap fun (start, a) => a.references index start

/-- A place within the name of a positional argument, or right behind it. -/
def Begins (column : Nat) (arguments : List Argument) (place : Nat) : Prop :=
  ∃ start a name, (start, a) ∈ placed column arguments ∧ a.name? = some name ∧
    start ≤ place ∧ place ≤ start + name.length

/-- A list with parentheses in it. -/
def Nested (list : List Char) : Prop :=
  '(' ∈ list ∨ ')' ∈ list

/-- An entry that names a base: it has no equals sign, and a name other than the
root of all classes in front of its first bracket. -/
def Names (root : String) (text : List Char) : Prop :=
  '=' ∉ text ∧ ∃ c, (Chain.scan (text.takeWhile (· ≠ '['))).head? = some c ∧
    String.ofList (Chain.spell c.words) ≠ root

section Places

variable {column index : Nat} {root : String} {arguments : List Argument} {a : Argument}
  {start : Nat} {name : List Char} {list behind : List Char} {entry : Nat × List Char}

theorem mem_place_of_mem_placed (h : (start, a) ∈ placed column arguments) :
    (start, a.text) ∈ place column (arguments.map Argument.text) := by
  induction arguments generalizing column with
  | nil => cases h
  | cons first rest ih =>
      rcases List.mem_cons.1 h with heq | h
      · obtain ⟨rfl, rfl⟩ := Prod.mk.inj heq
        exact List.mem_cons_self
      · exact List.mem_cons_of_mem _ (ih h)

theorem exists_placed_of_mem_place (h : entry ∈ place column (arguments.map Argument.text)) :
    ∃ a ∈ arguments, (entry.1, a) ∈ placed column arguments ∧ entry.2 = a.text := by
  induction arguments generalizing column with
  | nil => cases h
  | cons first rest ih =>
      rcases List.mem_cons.1 h with rfl | h
      · exact ⟨first, List.mem_cons_self, List.mem_cons_self, rfl⟩
      · obtain ⟨a, ha, hplace, htext⟩ := ih h
        exact ⟨a, List.mem_cons_of_mem _ ha, List.mem_cons_of_mem _ hplace, htext⟩

theorem text_of_name? (h : a.name? = some name) : name = a.text.takeWhile (· ≠ '[') := by
  cases a with
  | positional text => exact (Option.some.inj h).symm
  | keyword key value => cases h
  | unpacked space mapping => cases h

/-- The part of an entry that is searched has none of the characters that end it. -/
theorem not_mem_searched (hentry : entry ∈ entries column (list.takeWhile (· ≠ ')'))) {c : Char}
    (hc : c = ',' ∨ c = ')' ∨ c = '[') : c ∉ entry.2.takeWhile (· ≠ '[') := by
  intro hmem
  have hin : c ∈ entry.2 := (List.takeWhile_prefix _).subset hmem
  rcases hc with rfl | rfl | rfl
  · exact Text.not_mem_of_mem_splitOn (mem_of_mem_place hentry) hin
  · obtain ⟨before, after, hcut, -⟩ := exists_split_of_mem_place hentry
    rw [List.intercalate_splitOn] at hcut
    have hlist : ')' ∈ list.takeWhile (· ≠ ')') := by
      rw [hcut]
      simp [hin]
    have hne := List.all_eq_true.1 List.all_takeWhile ')' hlist
    simp at hne
  · have hne := List.all_eq_true.1 List.all_takeWhile _ hmem
    simp at hne

/-- A base is a reference of a positional argument when it stands in the name of one. -/
theorem mem_positionals_iff {o : Opening} {b : BaseReference}
    (hb : b ∈ baseList index (o.line (listed arguments) behind) (String.ofList o.name) root) :
    b ∈ positionals index o.text.length arguments ↔
      ∃ start a name, (start, a) ∈ placed o.text.length arguments ∧ a.name? = some name ∧
        start ≤ b.column ∧ b.column < start + name.length := by
  rw [positionals, List.mem_flatMap]
  constructor
  · rintro ⟨⟨start, a⟩, ha, hb⟩
    cases hname : a.name? with
    | none => simp [Argument.references, hname] at hb
    | some name =>
        simp only [Argument.references, hname, List.mem_map] at hb
        obtain ⟨c, hc, rfl⟩ := hb
        have hbounds := Chain.last_bounds hc
        exact ⟨start, a, name, ha, hname, by simp only; omega, by simp only; omega⟩
  · rintro ⟨start, a, name, ha, hname, hle, hlt⟩
    obtain ⟨c, hc, rfl⟩ := exists_chain_of_mem_baseList hb
    refine ⟨(start, a), ha, ?_⟩
    -- The name stands between two walls, so the chains in it are those of the line.
    obtain ⟨lead, hlead⟩ := o.exists_text
    have hplace := mem_place_of_mem_placed ha
    rw [hlead, List.length_append, List.length_singleton] at hplace
    obtain ⟨front, v, w, back, hv, hw, hline, hstart⟩ :=
      exists_walls_of_mem_place behind (by decide : Text.Wall '(') (by decide : Text.Wall ')') hplace
    obtain ⟨d, more, hcut, hd⟩ := exists_cut '[' a.text w back
    have hd : Text.Wall d := by
      rcases hd with rfl | rfl
      · exact hw
      · decide
    rw [← text_of_name? hname] at hcut
    have hshape : o.line (listed arguments) behind = front ++ v :: (name ++ d :: more) := by
      rw [← hcut, ← hline, Opening.line, hlead, listed]
      simp
    simp only at hstart hle hlt
    rw [hshape] at hc
    obtain ⟨c, hc', rfl⟩ := Chain.mem_scan_between hv hd hc (by omega) (by omega)
    simp only [Argument.references, hname, List.mem_map]
    refine ⟨c, hc', ?_⟩
    rw [Chain.spell_shift, Chain.last_shift, Word.shift, hstart]
    simp only [BaseReference.mk.injEq, true_and]
    omega

theorem mem_of_within {before part rest front more : List Char} {w : Char}
    (h : before ++ (part ++ rest) = front ++ w :: more) (hle : before.length ≤ front.length)
    (hlt : front.length < before.length + part.length) : w ∈ part := by
  have hw : (before ++ (part ++ rest))[front.length]? = some w := by
    rw [h]
    simp
  rw [List.getElem?_append_right hle, List.getElem?_append_left (by omega)] at hw
  exact List.mem_of_getElem? hw

/-- The part of an entry that is searched stands in the list, which ends with its parenthesis. -/
theorem exists_searched
    (hentry : entry ∈ entries column ((listed arguments).takeWhile (· ≠ ')'))) :
    ∃ before more, listed arguments ++ [')'] =
      before ++ (entry.2.takeWhile (· ≠ '[') ++ more) ∧ entry.1 = column + before.length := by
  obtain ⟨before, after, hpiece, hbefore, -, -⟩ := exists_split_of_mem_place hentry
  obtain ⟨d, rest, hcut, -⟩ := exists_cut ')' (listed arguments) ')' []
  rw [List.intercalate_splitOn] at hpiece
  refine ⟨before, entry.2.dropWhile (· ≠ '[') ++ (after ++ d :: rest), ?_, hbefore⟩
  rw [hcut, hpiece, ← List.append_assoc (entry.2.takeWhile _), List.takeWhile_append_dropWhile]
  simp

/-- The name of an argument stands in the list behind a comma or in front, and what ends it
is no part of an entry that is searched. -/
theorem exists_named (ha : (start, a) ∈ placed column arguments) (hname : a.name? = some name) :
    ∃ left d rest, listed arguments ++ [')'] = left ++ (name ++ d :: rest) ∧
      start = column + left.length ∧ (∀ c ∈ left.getLast?, c = ',') ∧
      (d = ',' ∨ d = ')' ∨ d = '[') := by
  obtain ⟨left, right, hlist, hleft, hends, hright⟩ :=
    exists_split_of_mem_place (mem_place_of_mem_placed ha)
  obtain ⟨w, back, hw, hback⟩ : ∃ w back, (w = ',' ∨ w = ')') ∧ right ++ [')'] = w :: back := by
    cases right with
    | nil => exact ⟨')', [], .inr rfl, rfl⟩
    | cons w right => exact ⟨w, _, .inl (hright w rfl), rfl⟩
  obtain ⟨d, rest, hcut, hd⟩ := exists_cut '[' a.text w back
  refine ⟨left, d, rest, ?_, hleft, hends, ?_⟩
  · rw [text_of_name? hname, ← hcut, ← hback, listed, hlist]
    simp
  · rcases hd with rfl | rfl
    · rcases hw with rfl | rfl <;> simp
    · simp

/-- An entry that names a base begins in the name of an argument when the base stands there. -/
theorem begins_iff {b : BaseReference}
    (hentry : entry ∈ entries column ((listed arguments).takeWhile (· ≠ ')')))
    (hb : base? root index entry = some b) (ha : (start, a) ∈ placed column arguments)
    (hname : a.name? = some name) :
    start ≤ entry.1 ∧ entry.1 ≤ start + name.length ↔
      start ≤ b.column ∧ b.column < start + name.length := by
  obtain ⟨before, more, hpart, hbefore⟩ := exists_searched hentry
  obtain ⟨left, d, rest, hshape, hleft, hends, hd⟩ := exists_named ha hname
  obtain ⟨c, hc, rfl⟩ := exists_chain_of_base? hb
  have hbounds := Chain.last_bounds hc
  simp only
  constructor
  · rintro ⟨hle, hge⟩
    refine ⟨by omega, ?_⟩
    by_contra hover
    have hstops : before ++ (entry.2.takeWhile (· ≠ '[') ++ more) = left ++ name ++ d :: rest := by
      rw [← hpart, hshape, List.append_assoc]
    have hlength : (left ++ name).length = left.length + name.length := List.length_append
    exact not_mem_searched hentry hd (mem_of_within hstops (by omega) (by omega))
  · rintro ⟨hle, hge⟩
    refine ⟨?_, by omega⟩
    by_contra hover
    rcases List.eq_nil_or_concat left with rfl | ⟨front, comma, rfl⟩
    · simp only [List.length_nil] at hleft
      omega
    · obtain rfl : comma = ',' := by simpa using hends
      simp only [List.concat_eq_append, List.length_append, List.length_singleton] at hleft hshape
      have hcomma : before ++ (entry.2.takeWhile (· ≠ '[') ++ more) =
          front ++ ',' :: (name ++ d :: rest) := by
        rw [← hpart, hshape]
        simp
      exact not_mem_searched hentry (.inl rfl) (mem_of_within hcomma (by omega) (by omega))

theorem exists_base?_iff (index : Nat) (entry : Nat × List Char) :
    (∃ b, base? root index entry = some b) ↔ Names root entry.2 := by
  unfold base? Names
  simp only
  generalize (Chain.scan (entry.2.takeWhile (· ≠ '['))).head? = found
  cases found with
  | none => simp
  | some c => by_cases hroot : String.ofList (Chain.spell c.words) = root <;> simp [hroot]

theorem not_mem_of_plain (hplain : ∀ a ∈ arguments, a.Plain) {c : Char}
    (hc : c = ',' ∨ c = '(' ∨ c = ')') : ∀ p ∈ arguments.map Argument.text, c ∉ p := by
  intro p hp
  obtain ⟨a, ha, rfl⟩ := List.mem_map.1 hp
  rcases hc with rfl | rfl | rfl
  · exact (hplain a ha).comma
  · exact (hplain a ha).left
  · exact (hplain a ha).right

theorem not_nested_of_plain (hplain : ∀ a ∈ arguments, a.Plain) : ¬ Nested (listed arguments) := by
  have hopen : '(' ∉ listed arguments :=
    not_mem_intercalate (by decide) (not_mem_of_plain hplain (.inr (.inl rfl)))
  have hclose : ')' ∉ listed arguments :=
    not_mem_intercalate (by decide) (not_mem_of_plain hplain (.inr (.inr rfl)))
  simp [Nested, hopen, hclose]

/-- In a list of plain arguments each entry is one, and only a positional one names a base. -/
theorem begins_of_plain (hplain : ∀ a ∈ arguments, a.Plain)
    (hentry : entry ∈ entries column ((listed arguments).takeWhile (· ≠ ')')))
    (hnames : Names root entry.2) : Begins column arguments entry.1 := by
  have hclose : ')' ∉ listed arguments := fun h => not_nested_of_plain hplain (.inr h)
  rw [takeWhile_ne_of_not_mem hclose, entries, listed] at hentry
  obtain ⟨hequals, c, hc, -⟩ := hnames
  by_cases hempty : arguments = []
  · subst hempty
    obtain rfl : entry = (column, []) := by simpa [place] using hentry
    simp [Chain.scan, Chain.scanFrom] at hc
  · rw [List.splitOn_intercalate ',' (not_mem_of_plain hplain (.inl rfl)) (by simpa using hempty)]
      at hentry
    obtain ⟨a, ha, hplace, htext⟩ := exists_placed_of_mem_place hentry
    cases a with
    | positional text => exact ⟨_, _, _, hplace, rfl, Nat.le_refl _, Nat.le_add_right _ _⟩
    | keyword key value => simp [htext, Argument.text] at hequals
    | unpacked space mapping => exact absurd rfl ((hplain _ ha).packed space mapping)

end Places

section Header

variable (o : Opening) (arguments : List Argument) (behind : List Char) (index : Nat)
  (root : String)

theorem baseList_subset_iff :
    baseList index (o.line (listed arguments) behind) (String.ofList o.name) root ⊆
        positionals index o.text.length arguments ↔
      ∀ entry ∈ entries o.text.length ((listed arguments).takeWhile (· ≠ ')')),
        Names root entry.2 → Begins o.text.length arguments entry.1 := by
  constructor
  · intro h entry hentry hnames
    obtain ⟨b, hb⟩ := (exists_base?_iff index entry).2 hnames
    have hmem : b ∈ baseList index (o.line (listed arguments) behind) (String.ofList o.name) root := by
      rw [o.baseList_line, List.mem_filterMap]
      exact ⟨entry, hentry, hb⟩
    obtain ⟨start, a, name, ha, hname, hplace⟩ := (mem_positionals_iff hmem).1 (h hmem)
    exact ⟨start, a, name, ha, hname, (begins_iff hentry hb ha hname).2 hplace⟩
  · intro h b hmem
    rw [mem_positionals_iff hmem]
    rw [o.baseList_line, List.mem_filterMap] at hmem
    obtain ⟨entry, hentry, hb⟩ := hmem
    obtain ⟨start, a, name, ha, hname, hplace⟩ := h entry hentry ((exists_base?_iff index entry).1 ⟨b, hb⟩)
    exact ⟨start, a, name, ha, hname, (begins_iff hentry hb ha hname).1 hplace⟩

theorem baseList_eq_nil_iff :
    baseList index (o.line (listed arguments) behind) (String.ofList o.name) root = [] ↔
      ∀ entry ∈ entries o.text.length ((listed arguments).takeWhile (· ≠ ')')),
        ¬ Names root entry.2 := by
  rw [o.baseList_line, List.filterMap_eq_nil_iff]
  refine forall₂_congr fun entry _ => ?_
  rw [← exists_base?_iff index entry, Option.eq_none_iff_forall_ne_some]
  simp

/-- The bases of a header are references of its positional arguments, and a list with
parentheses has none, exactly when each entry that names a base begins in the name of a
positional argument and the list then has no parentheses. In a list of plain arguments
all this is so. -/
theorem baseList_subset_positionals :
    (baseList index (o.line (listed arguments) behind) (String.ofList o.name) root ⊆
        positionals index o.text.length arguments ∧
      (Nested (listed arguments) →
        baseList index (o.line (listed arguments) behind) (String.ofList o.name) root = []) ↔
      ∀ entry ∈ entries o.text.length ((listed arguments).takeWhile (· ≠ ')')),
        Names root entry.2 →
          Begins o.text.length arguments entry.1 ∧ ¬ Nested (listed arguments)) ∧
    ((∀ a ∈ arguments, a.Plain) →
      baseList index (o.line (listed arguments) behind) (String.ofList o.name) root ⊆
        positionals index o.text.length arguments ∧ ¬ Nested (listed arguments)) := by
  constructor
  · rw [baseList_subset_iff, baseList_eq_nil_iff]
    constructor
    · rintro ⟨hbegins, hnested⟩ entry hentry hnames
      exact ⟨hbegins entry hentry hnames, fun h => hnested h entry hentry hnames⟩
    · intro h
      refine ⟨fun entry hentry hnames => (h entry hentry hnames).1, ?_⟩
      intro hnested entry hentry hnames
      exact (h entry hentry hnames).2 hnested
  · intro hplain
    refine ⟨?_, not_nested_of_plain hplain⟩
    rw [baseList_subset_iff]
    intro entry hentry hnames
    exact begins_of_plain hplain hentry hnames

end Header

/-! ## Headers of one class -/

/-- The opening of a header of class `A`. -/
def opening : Opening where
  indent := []
  gap := [' ']
  name := ['A']
  space := []
  blank := List.all_eq_true.1 (by decide)
  parted := by decide
  spellable := spellable_of_identifier (by decide)

def plainArguments : List Argument :=
  [.positional "Base".toList, .positional " Generic[T]".toList,
    .keyword " metaclass".toList "M".toList]

theorem baseList_subset_positionals_plain :
    opening.line (listed plainArguments) [':'] = "class A(Base, Generic[T], metaclass=M):".toList ∧
      (∀ a ∈ plainArguments, a.Plain) ∧
      baseList 0 (opening.line (listed plainArguments) [':']) "A" "object" =
        [⟨"Base", 0, 8⟩, ⟨"Generic", 0, 14⟩] ∧
      baseList 0 (opening.line (listed plainArguments) [':']) "A" "object" ⊆
        positionals 0 opening.text.length plainArguments ∧ ¬ Nested (listed plainArguments) := by
  have hplain : ∀ a ∈ plainArguments, a.Plain := by
    intro a ha
    simp only [plainArguments, List.mem_cons, List.not_mem_nil, or_false] at ha
    rcases ha with rfl | rfl | rfl
    · exact ⟨by decide, by decide, by decide, fun _ _ => Argument.noConfusion⟩
    · exact ⟨by decide, by decide, by decide, fun _ _ => Argument.noConfusion⟩
    · exact ⟨by decide, by decide, by decide, fun _ _ => Argument.noConfusion⟩
  have hall := baseList_subset_positionals opening plainArguments [':'] 0 "object"
  exact ⟨by decide, hplain, by decide +kernel, hall.2 hplain⟩

/-- A name in a subscript is read as a base, and so is a function that is called. -/
theorem baseList_not_subset_positionals :
    opening.line (listed [.positional "Dict[str, Context]".toList]) [':'] =
        "class A(Dict[str, Context]):".toList ∧
      (Grammar.Statement.ofSource? "class A(Dict[str, Context]): pass".toList).isSome = true ∧
      baseList 0 "class A(Dict[str, Context]):".toList "A" "object" =
        [⟨"Dict", 0, 8⟩, ⟨"Context", 0, 18⟩] ∧
      ¬ baseList 0 "class A(Dict[str, Context]):".toList "A" "object" ⊆
        positionals 0 8 [.positional "Dict[str, Context]".toList] ∧
    opening.line (listed [.positional "f(x)".toList, .positional " B".toList]) [':'] =
        "class A(f(x), B):".toList ∧
      (Grammar.Statement.ofSource? "class A(f(x), B): pass".toList).isSome = true ∧
      Nested (listed [.positional "f(x)".toList, .positional " B".toList]) ∧
      baseList 0 "class A(f(x), B):".toList "A" "object" = [⟨"f", 0, 8⟩] := by
  have hsubscript : baseList 0 "class A(Dict[str, Context]):".toList "A" "object" =
      [⟨"Dict", 0, 8⟩, ⟨"Context", 0, 18⟩] := by decide +kernel
  have hpositionals : positionals 0 8 [.positional "Dict[str, Context]".toList] = [⟨"Dict", 0, 8⟩] := by
    decide +kernel
  refine ⟨by decide +kernel, by decide +kernel, hsubscript, ?_, by decide +kernel,
    by decide +kernel, .inl (by decide +kernel), by decide +kernel⟩
  rw [hsubscript, hpositionals]
  simp

end ClassHeader

end LozengeNav
