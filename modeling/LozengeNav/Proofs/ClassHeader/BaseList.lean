import LozengeNav.Proofs.ClassHeader.Opening
import LozengeNav.Proofs.Expression.Dotted
import LozengeNav.Proofs.ModuleName
import LozengeNav.Proofs.SourceIndex.Jump

/-! # Bases where a header writes them

The argument list of a header stands between a parenthesis and a parenthesis, and
a comma parts its entries. No chain runs over these, nor over the bracket of a
subscript, so that what an entry names is a chain of the whole line and a cursor
on it finds the expression that was read. A jump from there resolves what the
header says.
-/

namespace LozengeNav

namespace ClassHeader

/-! ## Entries between walls -/

section Entries

variable {name line text : List Char} {column index : Nat} {root : String}
  {entry : Nat × List Char} {b : BaseReference}

theorem exists_append_of_arguments? (h : arguments? name line = some (column, text)) :
    ∃ before rest, line = before ++ '(' :: (text ++ ')' :: rest) ∧ column = before.length + 1 := by
  unfold arguments? at h
  obtain ⟨⟨start, after⟩, hafter, h⟩ := Option.bind_eq_some_iff.1 h
  obtain ⟨front, hline, hstart⟩ := exists_append_of_afterName? hafter
  simp only at h
  split at h
  · next inner hinner =>
      split at h
      · next hclosed =>
          obtain ⟨rfl, rfl⟩ := Prod.mk.inj (Option.some.inj h)
          have hopened : after.takeWhile (· ≠ '(') ++ after.dropWhile (· ≠ '(') = after :=
            List.takeWhile_append_dropWhile
          rw [Bool.and_eq_true, List.contains_iff_mem] at hclosed
          obtain ⟨text, rest, rfl, hfree⟩ := List.eq_append_cons_of_mem hclosed.2
          rw [hinner] at hopened
          refine ⟨front ++ after.takeWhile (· ≠ '('), rest, ?_, ?_⟩
          · rw [takeWhile_ne_append hfree, List.append_assoc, hopened, hline]
          · rw [List.length_append, hstart]
      · cases h
  · cases h

theorem exists_split_of_mem_place {pieces : List (List Char)} (h : entry ∈ place column pieces) :
    ∃ before after, [','].intercalate pieces = before ++ (entry.2 ++ after) ∧
      entry.1 = column + before.length ∧ (∀ c ∈ before.getLast?, c = ',') ∧
      ∀ c ∈ after.head?, c = ',' := by
  induction pieces generalizing column with
  | nil => cases h
  | cons piece others ih =>
      obtain ⟨tail, hsplit, htail⟩ : ∃ tail, [','].intercalate (piece :: others) = piece ++ tail ∧
          (tail = [] ∧ others = [] ∨ tail = ',' :: [','].intercalate others) := by
        cases others with
        | nil => exact ⟨[], by simp [List.intercalate], .inl ⟨rfl, rfl⟩⟩
        | cons second more => exact ⟨_, by simp [List.intercalate], .inr rfl⟩
      rcases List.mem_cons.1 h with rfl | h
      · refine ⟨[], tail, hsplit, rfl, by simp, ?_⟩
        rcases htail with ⟨rfl, -⟩ | rfl <;> simp
      · rcases htail with ⟨-, rfl⟩ | rfl
        · cases h
        · obtain ⟨before, after, hmore, hcolumn, hbefore, hafter⟩ := ih h
          refine ⟨piece ++ ',' :: before, after, by simp [hsplit, hmore], ?_, ?_, hafter⟩
          · rw [hcolumn, List.length_append, List.length_cons]
            omega
          · rcases List.eq_nil_or_concat before with rfl | ⟨front, c, rfl⟩
            · simp
            · simpa [List.getLast?_cons] using hbefore

theorem mem_of_mem_place {pieces : List (List Char)} (h : entry ∈ place column pieces) :
    entry.2 ∈ pieces := by
  induction pieces generalizing column with
  | nil => cases h
  | cons piece rest ih =>
      rcases List.mem_cons.1 h with rfl | h
      · exact List.mem_cons_self
      · exact List.mem_cons_of_mem _ (ih h)

theorem exists_walls_of_mem_place {pieces : List (List Char)} {before : List Char} {v w : Char}
    (rest : List Char) (hv : Text.Wall v) (hw : Text.Wall w)
    (h : entry ∈ place (before.length + 1) pieces) :
    ∃ front v' w' back, Text.Wall v' ∧ Text.Wall w' ∧
      before ++ v :: ([','].intercalate pieces ++ w :: rest) =
        front ++ v' :: (entry.2 ++ w' :: back) ∧ entry.1 = front.length + 1 := by
  have hcomma : Text.Wall ',' := by decide
  obtain ⟨left, right, hsplit, hcolumn, hleft, hright⟩ := exists_split_of_mem_place h
  obtain ⟨front, v', hv', hfront, hlength⟩ : ∃ front v', Text.Wall v' ∧
      before ++ v :: left = front ++ [v'] ∧ front.length = before.length + left.length := by
    rcases List.eq_nil_or_concat left with rfl | ⟨more, c, rfl⟩
    · exact ⟨before, v, hv, rfl, rfl⟩
    · obtain rfl : c = ',' := by simpa using hleft
      exact ⟨before ++ v :: more, ',', hcomma, by simp, by simp⟩
  obtain ⟨w', back, hw', hback⟩ : ∃ w' back, Text.Wall w' ∧ right ++ w :: rest = w' :: back := by
    cases right with
    | nil => exact ⟨w, rest, hw, rfl⟩
    | cons c right =>
        obtain rfl : c = ',' := by simpa using hright
        exact ⟨',', _, hcomma, rfl⟩
  refine ⟨front, v', w', back, hv', hw', ?_, by omega⟩
  calc before ++ v :: ([','].intercalate pieces ++ w :: rest)
      = before ++ v :: left ++ (entry.2 ++ (right ++ w :: rest)) := by simp [hsplit]
    _ = front ++ v' :: (entry.2 ++ w' :: back) := by simp [hfront, hback]

theorem exists_chain_of_base? (h : base? root index entry = some b) :
    ∃ c ∈ Chain.scan (entry.2.takeWhile (· ≠ '[')),
      b = ⟨String.ofList (Chain.spell c.words), index, entry.1 + c.last.start⟩ := by
  unfold base? at h
  simp only at h
  split at h
  · cases h
  · split at h
    · cases h
    · next c hc =>
        split at h
        · cases h
        · exact ⟨c, List.mem_of_mem_head? hc, (Option.some.inj h).symm⟩

theorem exists_chain_of_walls {front back : List Char} {v w : Char} (hv : Text.Wall v)
    (hw : Text.Wall w) (hentry : entry.1 = front.length + 1)
    (h : base? root index entry = some b) :
    ∃ c ∈ Chain.scan (front ++ v :: (entry.2 ++ w :: back)),
      b = ⟨String.ofList (Chain.spell c.words), index, c.last.start⟩ := by
  obtain ⟨c, hc, rfl⟩ := exists_chain_of_base? h
  have hlast : (c.shift (front.length + 1)).last.start = entry.1 + c.last.start := by
    rw [Chain.last_shift, Word.shift, hentry, Nat.add_comm]
  refine ⟨c.shift (front.length + 1), ?_, by rw [Chain.spell_shift, hlast]⟩
  have hbracket : Text.Wall '[' := by decide
  obtain ⟨d, more, hcut, hd⟩ := exists_cut '[' entry.2 w back
  have hd : Text.Wall d := by
    rcases hd with rfl | rfl
    · exact hw
    · exact hbracket
  rw [hcut]
  exact Chain.mem_scan_of_walls hv hd front _ more hc

/-- Every base of a header is a chain of its line, at the place of its last word. -/
theorem exists_chain_of_mem_baseList {name : String} (h : b ∈ baseList index line name root) :
    ∃ c ∈ Chain.scan line, b = ⟨String.ofList (Chain.spell c.words), index, c.last.start⟩ := by
  unfold baseList at h
  cases harguments : arguments? name.toList line with
  | none => simp [harguments] at h
  | some found =>
      obtain ⟨column, text⟩ := found
      simp only [harguments, List.mem_filterMap] at h
      obtain ⟨entry, hentry, hb⟩ := h
      obtain ⟨before, rest, hline, rfl⟩ := exists_append_of_arguments? harguments
      obtain ⟨front, v, w, back, hv, hw, hshape, hcolumn⟩ :=
        exists_walls_of_mem_place rest (by decide : Text.Wall '(') (by decide : Text.Wall ')') hentry
      rw [List.intercalate_splitOn] at hshape
      rw [hline, hshape]
      exact exists_chain_of_walls hv hw hcolumn hb

/-! ## The order of bases -/

theorem column_of_base? (h : base? root index entry = some b) :
    entry.1 ≤ b.column ∧ b.column < entry.1 + entry.2.length := by
  obtain ⟨c, hc, rfl⟩ := exists_chain_of_base? h
  have hbounds := Chain.last_bounds hc
  have hshort : (entry.2.takeWhile (· ≠ '[')).length ≤ entry.2.length :=
    (List.takeWhile_sublist _).length_le
  simp only
  omega

theorem pairwise_place (column : Nat) (pieces : List (List Char)) :
    (place column pieces).Pairwise fun e e' => e.1 + e.2.length < e'.1 := by
  have hbehind : ∀ (pieces : List (List Char)) (column : Nat), ∀ e ∈ place column pieces,
      column ≤ e.1 := by
    intro pieces
    induction pieces with
    | nil => simp [place]
    | cons piece others ih =>
        intro column e he
        rcases List.mem_cons.1 he with rfl | he
        · exact Nat.le_refl _
        · have hle := ih _ e he
          omega
  induction pieces generalizing column with
  | nil => exact .nil
  | cons piece others ih =>
      refine List.pairwise_cons.2 ⟨fun e he => ?_, ih _⟩
      have hle := hbehind others _ e he
      simp only
      omega

theorem pairwise_baseList (index : Nat) (line : List Char) (name root : String) :
    (baseList index line name root).Pairwise fun b b' => b.column < b'.column := by
  unfold baseList
  split
  · exact .nil
  · next column text _ =>
      refine List.Pairwise.filterMap _ ?_ (pairwise_place column _)
      intro e e' hlt b hb b' hb'
      have hfirst := column_of_base? hb
      have hsecond := column_of_base? hb'
      omega

end Entries

end ClassHeader

/-! ## The last word of an expression -/

theorem ClassHeader.expressionAt?_of_mem_baseList {index : Nat} {line : List Char}
    {name root : String} {b : BaseReference} (h : b ∈ baseList index line name root) :
    expressionAt? line b.column = some b.expression := by
  obtain ⟨c, hc, rfl⟩ := exists_chain_of_mem_baseList h
  rw [expressionAt?, Chain.at?_of_mem_scan hc]
  rfl

theorem ClassHeader.exists_segment {index : Nat} {line : List Char} {name root : String}
    {b : BaseReference} (h : b ∈ baseList index line name root) :
    ∃ segment, (ModuleName.pieces b.expression).getLast? = some segment ∧
      segment.toList <+: line.drop b.column := by
  obtain ⟨c, hc, rfl⟩ := exists_chain_of_mem_baseList h
  have hat := (Chain.reads_iff.2 rfl : Chain.Reads 0 line (Chain.scan line)).at hc
  obtain ⟨before, hwords⟩ := c.words_eq_concat
  refine ⟨String.ofList c.last.text, ?_, ?_⟩
  · rw [Chain.pieces_spell (by simp [Chain.words]) fun w hw => (hat.words w hw).1, hwords]
    simp
  · rw [String.toList_ofList]
    exact (hat.words c.last c.last_mem).begins

/-! ## Jumping from a base -/

namespace SourceIndex

/-- A jump from an expression of a document that can be read resolves the expression. -/
theorem jump_of_expressionAt? (x : SourceIndex) {s : IndexState} {uri text expression : String}
    {place : Position} {line : List Char} (htext : Workspace.readText s.tree uri = some text)
    (hline : (Text.lines text.toList)[place.line]? = some line)
    (hexpression : expressionAt? line place.column = some expression) :
    ∃ path, localPath? uri = some path ∧ (x.jump uri place).run.run s =
      (Option.toList <$> x.locateExpression path text.toList expression).run.run s := by
  unfold Workspace.readText at htext
  cases hpath : Path.ofUri uri with
  | error fault => simp [hpath] at htext
  | ok path =>
      cases hread : s.tree.readText path with
      | error fault => simp [hpath, hread] at htext
      | ok chars =>
          simp only [hpath, hread, Option.some.injEq] at htext
          subst htext
          rw [String.toList_ofList] at hline ⊢
          have hsource : source? s.tree path = .ok (some chars) := by
            rw [source?, hread]
          have hlocal : localPath? uri = some path := by
            rw [localPath?, hpath]
            rfl
          refine ⟨path, hlocal, ?_⟩
          have hrun : (x.jump uri place).run.run s =
              (do return (← x.locateExpression path chars expression).toList :
                Lookup (List Location)).run.run s := by
            unfold jump
            simp only [hlocal]
            show StateT.run (ExceptT.run (Query.ofExcept (source? s.tree path) >>= _)) s = _
            rw [hsource]
            simp only [Query.ofExcept, pure_bind, hline, hexpression]
          rw [hrun, bind_pure_comp]

/-- The bases of a header are where the header writes them: a cursor at a base
finds its expression, the line goes on from there with the last part of the
expression, and the columns increase. So a jump from a base of a class of a
document resolves what the header says. -/
theorem baseList_resolves (index : Nat) (line : List Char) (name root : String) :
    (∀ b ∈ baseList index line name root, expressionAt? line b.column = some b.expression ∧
      ∃ segment, (ModuleName.pieces b.expression).getLast? = some segment ∧
        segment.toList <+: line.drop b.column) ∧
    ((baseList index line name root).map BaseReference.column).Pairwise (· < ·) ∧
    ∀ (x : SourceIndex) (s : IndexState) (uri text : String),
      Workspace.readText s.tree uri = some text →
      classHeader? text.toList name = some (index, line) →
      ∀ b ∈ baseList index line name root, ∃ path, localPath? uri = some path ∧
        (x.jump uri ⟨b.line, b.column⟩).run.run s =
          (Option.toList <$> x.locateExpression path text.toList b.expression).run.run s := by
  refine ⟨fun b hb => ⟨?_, ClassHeader.exists_segment hb⟩, ?_, ?_⟩
  · exact ClassHeader.expressionAt?_of_mem_baseList hb
  · exact List.pairwise_map.2 (ClassHeader.pairwise_baseList index line name root)
  · intro x s uri text htext hheader b hb
    have hline : b.line = index := by
      obtain ⟨c, -, rfl⟩ := ClassHeader.exists_chain_of_mem_baseList hb
      rfl
    refine x.jump_of_expressionAt? htext ?_ (ClassHeader.expressionAt?_of_mem_baseList hb)
    rw [hline]
    exact (ClassHeader.exists_of_classHeader? hheader).1

/-! ## A header with blanks, a subscript and a keyword -/

def spacedLine : List Char :=
  "class Page(pkg . Base, Generic[T], object, metaclass=M):".toList

def spacedText : String :=
  "import pkg\nclass Page(pkg . Base, Generic[T], object, metaclass=M):\n    pass\n"

def spaced : FileTree where
  entries := [(["ws"], .directory), (["ws", "page.py"], sourceFile spacedText 1)]
  here := []

theorem baseList_resolves_spaced :
    Workspace.readText spaced "file:///ws/page.py" = some spacedText ∧
      classHeader? spacedText.toList "Page" = some (1, spacedLine) ∧
      ⟨"pkg.Base", 1, 17⟩ ∈ baseList 1 spacedLine "Page" "object" ∧
      expressionAt? spacedLine ((17 : Nat) : Int) = some "pkg.Base" ∧
      ∃ path, localPath? "file:///ws/page.py" = some path ∧
        (rootIndex.jump "file:///ws/page.py" ⟨1, 17⟩).run.run ⟨spaced, []⟩ =
          (Option.toList <$> rootIndex.locateExpression path spacedText.toList
            "pkg.Base").run.run ⟨spaced, []⟩ := by
  have htext : Workspace.readText spaced "file:///ws/page.py" = some spacedText := by
    decide +kernel
  have hheader : classHeader? spacedText.toList "Page" = some (1, spacedLine) := by
    decide +kernel
  have hbase : ⟨"pkg.Base", 1, 17⟩ ∈ baseList 1 spacedLine "Page" "object" := by
    decide +kernel
  obtain ⟨hcursor, -, hjump⟩ := baseList_resolves 1 spacedLine "Page" "object"
  obtain ⟨path, hpath, hrun⟩ :=
    hjump rootIndex ⟨spaced, []⟩ "file:///ws/page.py" spacedText htext hheader _ hbase
  dsimp only at hrun
  exact ⟨htext, hheader, hbase, (hcursor _ hbase).1, path, hpath, hrun⟩

end SourceIndex

end LozengeNav
