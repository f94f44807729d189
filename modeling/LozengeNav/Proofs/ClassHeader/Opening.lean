import LozengeNav.Proofs.ClassHeader
import Mathlib.Data.List.TakeWhile

/-! # How a class header opens

A header has the keyword, blanks and the name of the class, and behind the name
a parenthesis or a blank. For a name without blanks and parentheses the pieces of
the line are determined, so that one line declares one class.
-/

namespace LozengeNav

namespace ClassHeader

section Cut

variable {c : Char} {s : List Char}

theorem takeWhile_ne_of_not_mem (h : c ∉ s) : s.takeWhile (· ≠ c) = s :=
  List.takeWhile_eq_self_iff.2 fun d hd => by
    have hne : d ≠ c := fun heq => h (heq ▸ hd)
    simpa using hne

theorem takeWhile_ne_append (h : c ∉ s) (rest : List Char) :
    (s ++ c :: rest).takeWhile (· ≠ c) = s := by
  rw [List.takeWhile_append, takeWhile_ne_of_not_mem h]
  simp

/-- Behind what stands in front of a character follows the character or what follows the text. -/
theorem exists_cut (c : Char) (s : List Char) (w : Char) (rest : List Char) :
    ∃ d more, s ++ w :: rest = s.takeWhile (· ≠ c) ++ d :: more ∧ (d = w ∨ d = c) := by
  by_cases h : c ∈ s
  · obtain ⟨before, after, rfl, hfree⟩ := List.eq_append_cons_of_mem h
    refine ⟨c, after ++ w :: rest, ?_, .inr rfl⟩
    rw [takeWhile_ne_append hfree, List.append_assoc, List.cons_append]
  · exact ⟨w, rest, by rw [takeWhile_ne_of_not_mem h], .inl rfl⟩

theorem not_mem_intercalate (hc : c ≠ ',') {pieces : List (List Char)} (h : ∀ p ∈ pieces, c ∉ p) :
    c ∉ [','].intercalate pieces := by
  induction pieces with
  | nil => simp
  | cons piece rest ih =>
      obtain ⟨hpiece, hrest⟩ := List.forall_mem_cons.1 h
      cases rest with
      | nil => simpa [List.intercalate] using hpiece
      | cons second more =>
          have hmore := ih hrest
          simp_all [List.intercalate]

end Cut

/-- A name that a header can spell in one piece. -/
structure Spellable (name : List Char) : Prop where
  nonempty : name ≠ []
  solid : ∀ c ∈ name, Text.isBlank c = false ∧ c ≠ '('

theorem spellable_of_identifier {name : List Char} (h : Text.Identifier name) : Spellable name where
  nonempty := by
    obtain ⟨c, tail, rfl, -⟩ := h.head
    exact List.cons_ne_nil c tail
  solid := by
    intro c hc
    have hword := h.word c hc
    refine ⟨Text.isBlank_of_isWord hword, ?_⟩
    intro hparen
    rw [hparen] at hword
    exact absurd hword (by decide)

/-- The pieces of a line that declares a class. -/
structure Opens (line indent gap name after : List Char) : Prop where
  pieces : line = indent ++ (classKeyword ++ (gap ++ (name ++ after)))
  blank : ∀ b ∈ indent ++ gap, Text.isBlank b = true
  parted : gap ≠ []
  stopped : ∃ c rest, after = c :: rest ∧ (c = '(' ∨ Text.isBlank c = true)

/-- A line with the header of a class: the keyword, the name and what has to stand behind it. -/
def Heads (line name : List Char) : Prop :=
  ∃ indent gap after, Opens line indent gap name after

/-- The pieces of a header up to its opening parenthesis. -/
structure Opening where
  indent : List Char
  gap : List Char
  name : List Char
  space : List Char
  blank : ∀ b ∈ indent ++ (gap ++ space), Text.isBlank b = true
  parted : gap ≠ []
  spellable : Spellable name

namespace Opening

def text (o : Opening) : List Char :=
  o.indent ++ (classKeyword ++ (o.gap ++ (o.name ++ (o.space ++ ['(']))))

/-- A header with a list between parentheses and any text behind it. -/
def line (o : Opening) (list behind : List Char) : List Char :=
  o.text ++ (list ++ ')' :: behind)

end Opening

section Name

variable {name line s after indent gap rest : List Char} {column : Nat}

theorem dropName?_eq_some_iff : dropName? name s = some after ↔
    s = name ++ after ∧ ∃ c rest, after = c :: rest ∧ (c = '(' ∨ Text.isBlank c = true) := by
  unfold dropName?
  constructor
  · intro h
    split at h
    · next hprefix =>
        obtain ⟨tail, rfl⟩ := List.isPrefixOf_iff_prefix.1 hprefix
        rw [List.drop_left] at h
        cases tail with
        | nil => cases h
        | cons c rest =>
            simp only at h
            split at h
            · next hc =>
                obtain rfl := Option.some.inj h
                exact ⟨rfl, c, rest, rfl, by simpa using hc⟩
            · cases h
    · cases h
  · rintro ⟨rfl, c, rest, rfl, hc⟩
    have hprefix : name.isPrefixOf (name ++ c :: rest) = true :=
      List.isPrefixOf_iff_prefix.2 (List.prefix_append _ _)
    rw [if_pos hprefix, List.drop_left]
    simp [hc]

theorem keyword?_eq_some (h : keyword? line = some (indent, gap, rest)) :
    line = indent ++ (classKeyword ++ (gap ++ rest)) ∧
      ∀ b ∈ indent ++ gap, Text.isBlank b = true := by
  unfold keyword? at h
  split at h
  · next tail hdrop =>
      simp only [Option.some.injEq, Prod.mk.injEq] at h
      obtain ⟨rfl, rfl, rfl⟩ := h
      constructor
      · have hline : line.takeWhile Text.isBlank ++ line.dropWhile Text.isBlank = line :=
          List.takeWhile_append_dropWhile
        rw [hdrop] at hline
        rw [List.takeWhile_append_dropWhile]
        exact hline.symm
      · intro b hb
        rcases List.mem_append.1 hb with hb | hb
        · exact List.all_eq_true.1 List.all_takeWhile b hb
        · exact List.all_eq_true.1 List.all_takeWhile b hb
  · cases h

theorem keyword?_of_blank (hblank : ∀ b ∈ indent ++ gap, Text.isBlank b = true)
    (hrest : ∀ c ∈ rest.head?, Text.isBlank c = false) :
    keyword? (indent ++ (classKeyword ++ (gap ++ rest))) = some (indent, gap, rest) := by
  obtain ⟨hindent, hgap⟩ := List.forall_mem_append.1 hblank
  have hc : Text.isBlank 'c' = false := by decide
  have htake : (gap ++ rest).takeWhile Text.isBlank = gap ∧
      (gap ++ rest).dropWhile Text.isBlank = rest := by
    rw [List.takeWhile_append_of_pos hgap, List.dropWhile_append_of_pos hgap]
    cases rest with
    | nil => simp
    | cons c rest => simp [hrest c rfl]
  unfold keyword?
  rw [List.dropWhile_append_of_pos hindent, List.takeWhile_append_of_pos hindent]
  simp [classKeyword, hc, htake]

/-- What follows the name is the end of the line, and the column is where it begins. -/
theorem exists_append_of_afterName? (h : afterName? name line = some (column, after)) :
    ∃ before, line = before ++ after ∧ before.length = column := by
  unfold afterName? at h
  obtain ⟨⟨indent, gap, rest⟩, hkeyword, h⟩ := Option.bind_eq_some_iff.1 h
  obtain ⟨back, hback, h⟩ := List.exists_of_findSome?_eq_some h
  obtain ⟨tail, hdrop, h⟩ := Option.map_eq_some_iff.1 h
  obtain ⟨rfl, rfl⟩ := Prod.mk.inj h
  obtain ⟨hline, -⟩ := keyword?_eq_some hkeyword
  obtain ⟨hshape, -⟩ := dropName?_eq_some_iff.1 hdrop
  refine ⟨indent ++ (classKeyword ++ (gap.take (gap.length - back) ++ name)), ?_, ?_⟩
  · have hgap : gap ++ rest = gap.take (gap.length - back) ++ (name ++ tail) := by
      rw [← hshape, ← List.append_assoc, List.take_append_drop]
    rw [hline, hgap]
    simp
  · have hkeywordLength : classKeyword.length = 5 := rfl
    simp only [List.length_append, List.length_take, hkeywordLength]
    omega

theorem opens_of_afterName? (hname : Spellable name)
    (h : afterName? name line = some (column, after)) :
    ∃ indent gap, Opens line indent gap name after ∧
      column = indent.length + 5 + gap.length + name.length := by
  obtain ⟨first, others, hcons⟩ := List.exists_cons_of_ne_nil hname.nonempty
  have hfirst : Text.isBlank first = false := (hname.solid first (by simp [hcons])).1
  unfold afterName? at h
  obtain ⟨⟨indent, gap, rest⟩, hkeyword, h⟩ := Option.bind_eq_some_iff.1 h
  obtain ⟨back, hback, h⟩ := List.exists_of_findSome?_eq_some h
  obtain ⟨tail, hdrop, h⟩ := Option.map_eq_some_iff.1 h
  obtain ⟨rfl, rfl⟩ := Prod.mk.inj h
  obtain ⟨hline, hblank⟩ := keyword?_eq_some hkeyword
  obtain ⟨hshape, hstopped⟩ := dropName?_eq_some_iff.1 hdrop
  -- A blank left for the name would have to begin it.
  have hnone : gap.drop (gap.length - back) = [] := by
    cases hleft : gap.drop (gap.length - back) with
    | nil => rfl
    | cons b more =>
        have hb : b = first := by
          rw [hleft, hcons] at hshape
          exact (List.cons.inj hshape).1
        have hmem : b ∈ gap := List.mem_of_mem_drop (hleft ▸ List.mem_cons_self)
        have hblanks := hblank b (List.mem_append_right _ hmem)
        rw [hb, hfirst] at hblanks
        cases hblanks
  have hback' : gap.length - back = gap.length := by
    have := List.drop_eq_nil_iff.1 hnone
    omega
  have hgap : gap ≠ [] := by
    have hlt := List.mem_range.1 hback
    exact List.ne_nil_of_length_pos (by omega)
  rw [hnone, List.nil_append] at hshape
  exact ⟨indent, gap, ⟨by rw [hline, hshape], hblank, hgap, hstopped⟩, by rw [hback']⟩

theorem Opens.afterName? (hname : Spellable name) (h : Opens line indent gap name after) :
    ClassHeader.afterName? name line =
      some (indent.length + 5 + gap.length + name.length, after) := by
  obtain ⟨hline, hblank, hparted, hstopped⟩ := h
  obtain ⟨first, others, hcons⟩ := List.exists_cons_of_ne_nil hname.nonempty
  have hfirst : Text.isBlank first = false := (hname.solid first (by simp [hcons])).1
  have hkeyword : keyword? line = some (indent, gap, name ++ after) := by
    rw [hline]
    exact keyword?_of_blank hblank (by simpa [hcons] using hfirst)
  obtain ⟨more, hmore⟩ := Nat.exists_eq_succ_of_ne_zero
    (Nat.pos_iff_ne_zero.1 (List.length_pos_iff.2 hparted))
  have hdrop : dropName? name (gap.drop gap.length ++ (name ++ after)) = some after := by
    rw [List.drop_length, List.nil_append]
    exact dropName?_eq_some_iff.2 ⟨rfl, hstopped⟩
  unfold ClassHeader.afterName?
  rw [hkeyword]
  simp only [Option.bind_eq_bind, Option.bind_some]
  rw [hmore, List.range_succ_eq_map, List.findSome?_cons, ← hmore, Nat.sub_zero, hdrop]
  rfl

theorem afterName?_eq_some_iff (hname : Spellable name) :
    afterName? name line = some (column, after) ↔
      ∃ indent gap, Opens line indent gap name after ∧
        column = indent.length + 5 + gap.length + name.length := by
  constructor
  · exact opens_of_afterName? hname
  · rintro ⟨indent, gap, hopens, rfl⟩
    exact hopens.afterName? hname

theorem isSome_afterName?_iff (hname : Spellable name) :
    (afterName? name line).isSome = true ↔ Heads line name := by
  constructor
  · intro h
    obtain ⟨⟨column, after⟩, hafter⟩ := Option.isSome_iff_exists.1 h
    obtain ⟨indent, gap, hopens, -⟩ := (afterName?_eq_some_iff hname).1 hafter
    exact ⟨indent, gap, after, hopens⟩
  · rintro ⟨indent, gap, after, hopens⟩
    exact Option.isSome_iff_exists.2
      ⟨_, (afterName?_eq_some_iff hname).2 ⟨indent, gap, hopens, rfl⟩⟩

/-- A line declares one spellable name. -/
theorem Opens.name_unique {indent' gap' name' after' : List Char}
    (h : Opens line indent gap name after) (h' : Opens line indent' gap' name' after')
    (hname : Spellable name) (hname' : Spellable name') : name = name' := by
  have hread : ∀ {indent gap name after : List Char}, Opens line indent gap name after →
      Spellable name → keyword? line = some (indent, gap, name ++ after) ∧
        (name ++ after).takeWhile (fun c => !(c == '(' || Text.isBlank c)) = name := by
    intro indent gap name after h hname
    obtain ⟨first, others, hcons⟩ := List.exists_cons_of_ne_nil hname.nonempty
    obtain ⟨c, rest, rfl, hc⟩ := h.stopped
    constructor
    · rw [h.pieces]
      exact keyword?_of_blank h.blank (by simpa [hcons] using (hname.solid first (by simp [hcons])).1)
    · have hstop : (c == '(' || Text.isBlank c) = true := by simpa using hc
      rw [List.takeWhile_append_of_pos fun d hd => by simp [hname.solid d hd],
        List.takeWhile_cons_of_neg (by simp [hstop]), List.append_nil]
  obtain ⟨hkeyword, htake⟩ := hread h hname
  obtain ⟨hkeyword', htake'⟩ := hread h' hname'
  have hsame : name ++ after = name' ++ after' := by
    rw [hkeyword, Option.some.injEq] at hkeyword'
    exact (Prod.mk.inj (Prod.mk.inj hkeyword').2).2
  rw [← htake, hsame, htake']

theorem exists_of_classHeader? {source : List Char} {name : String} {index : Nat}
    (h : classHeader? source name = some (index, line)) :
    (Text.lines source)[index]? = some line ∧ (afterName? name.toList line).isSome = true := by
  unfold classHeader? at h
  obtain ⟨⟨found, place⟩, hmem, h⟩ := List.exists_of_findSome?_eq_some h
  simp only at h
  split at h
  · next hname =>
      obtain ⟨rfl, rfl⟩ := Prod.mk.inj (Option.some.inj h)
      exact ⟨List.mem_zipIdx_iff_getElem?.1 hmem, hname⟩
  · cases h

theorem name_eq_of_classHeader? {source : List Char} {name name' : String} {index : Nat}
    {line' : List Char} (hname : Spellable name.toList) (hname' : Spellable name'.toList)
    (h : classHeader? source name = some (index, line))
    (h' : classHeader? source name' = some (index, line')) : name = name' := by
  obtain ⟨hline, hafter⟩ := exists_of_classHeader? h
  obtain ⟨hline', hafter'⟩ := exists_of_classHeader? h'
  obtain rfl : line = line' := Option.some.inj (hline.symm.trans hline')
  obtain ⟨_, _, _, hopens⟩ := (isSome_afterName?_iff hname).1 hafter
  obtain ⟨_, _, _, hopens'⟩ := (isSome_afterName?_iff hname').1 hafter'
  exact String.toList_injective (hopens.name_unique hopens' hname hname')

end Name

namespace Opening

variable (o : Opening) (list behind : List Char)

theorem exists_text : ∃ front, o.text = front ++ ['('] :=
  ⟨o.indent ++ (classKeyword ++ (o.gap ++ (o.name ++ o.space))), by simp [text]⟩

theorem opens : Opens (o.line list behind) o.indent o.gap o.name
    (o.space ++ '(' :: (list ++ ')' :: behind)) where
  pieces := by simp [line, text]
  blank := by
    intro b hb
    apply o.blank
    rw [← List.append_assoc]
    exact List.mem_append_left _ hb
  parted := o.parted
  stopped := by
    cases hspace : o.space with
    | nil => exact ⟨'(', _, rfl, .inl rfl⟩
    | cons b space => exact ⟨b, _, rfl, .inr (o.blank b (by simp [hspace]))⟩

/-- The list of a header ends at the first closing parenthesis. -/
theorem arguments?_line :
    arguments? o.name (o.line list behind) = some (o.text.length, list.takeWhile (· ≠ ')')) := by
  have hopen : '(' ∉ o.space := by
    intro hmem
    have hblank := o.blank '(' (by simp [hmem])
    exact absurd hblank (by decide)
  have hafter := (afterName?_eq_some_iff o.spellable).2 ⟨_, _, o.opens list behind, rfl⟩
  have hdrop : (o.space ++ '(' :: (list ++ ')' :: behind)).dropWhile (· ≠ '(') =
      '(' :: (list ++ ')' :: behind) := by
    have hcut : (o.space ++ '(' :: (list ++ ')' :: behind)).takeWhile (· ≠ '(') ++
        (o.space ++ '(' :: (list ++ ')' :: behind)).dropWhile (· ≠ '(') =
          o.space ++ '(' :: (list ++ ')' :: behind) := List.takeWhile_append_dropWhile
    rwa [takeWhile_ne_append hopen, List.append_cancel_left_eq] at hcut
  have hclosed : (list ++ ')' :: behind).contains ')' = true := by simp
  have hblank : Text.allBlank o.space = true :=
    List.all_eq_true.2 fun b hb => o.blank b (by simp [hb])
  have hlist : (list ++ ')' :: behind).takeWhile (· ≠ ')') = list.takeWhile (· ≠ ')') := by
    by_cases hmem : ')' ∈ list
    · obtain ⟨before, rest, rfl, hfree⟩ := List.eq_append_cons_of_mem hmem
      rw [List.append_assoc, List.cons_append, takeWhile_ne_append hfree, takeWhile_ne_append hfree]
    · rw [takeWhile_ne_append hmem, takeWhile_ne_of_not_mem hmem]
  have hlength : o.indent.length + 5 + o.gap.length + o.name.length + o.space.length + 1 =
      o.text.length := by
    have hkeyword : classKeyword.length = 5 := rfl
    simp only [text, List.length_append, List.length_singleton, hkeyword]
    omega
  unfold arguments?
  rw [hafter]
  simp only [Option.bind_eq_bind, Option.bind_some, takeWhile_ne_append hopen, hdrop, hblank,
    hclosed, hlist, hlength, Bool.and_self, if_true]

theorem baseList_line (index : Nat) (root : String) :
    baseList index (o.line list behind) (String.ofList o.name) root =
      (entries o.text.length (list.takeWhile (· ≠ ')'))).filterMap (base? root index) := by
  unfold baseList
  rw [String.toList_ofList, arguments?_line]

end Opening

end ClassHeader

end LozengeNav
