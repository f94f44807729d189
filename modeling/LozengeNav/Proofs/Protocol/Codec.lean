import LozengeNav.Proofs.Protocol.Shared
import LozengeNav.Proofs.Protocol.Units
import LozengeNav.Proofs.Text.Utf8
import Mathlib.Data.List.Forall2

/-! # Places that go back to the server

A session leaves the counting of columns to a codec. If the codec counts the code
units of each character, a place that the server named in an outline is told to it
again as it was named, as long as the file is not changed: the units of the
characters before it cancel out, whatever the encoding.
-/

namespace LozengeNav

namespace Text

/-! ## Code units -/

def Encoding.codeUnits : Encoding → Char → Nat
  | utf8, c => (Utf8.encodeChar c).length
  | utf16, c => if isAstral c then 2 else 1
  | utf32, _ => 1

def codeUnits (e : Encoding) (s : List Char) : Nat :=
  s.foldr (fun c n => e.codeUnits c + n) 0

/-- The number of characters that reach up to some number of code units. -/
def reach (e : Encoding) : Nat → List Char → Nat
  | _, [] => 0
  | 0, _ => 0
  | n + 1, c :: rest => reach e (n + 1 - e.codeUnits c) rest + 1

theorem codeUnits_pos (e : Encoding) (c : Char) : 0 < e.codeUnits c := by
  cases e with
  | utf8 => exact List.length_pos_iff.2 (Utf8.encodeChar_ne_nil c)
  | utf16 =>
      rw [Encoding.codeUnits]
      split <;> decide
  | utf32 => exact Nat.one_pos

theorem codeUnits_cons (e : Encoding) (c : Char) (s : List Char) :
    codeUnits e (c :: s) = e.codeUnits c + codeUnits e s :=
  rfl

theorem codeUnits_append (e : Encoding) (s u : List Char) :
    codeUnits e (s ++ u) = codeUnits e s + codeUnits e u := by
  induction s with
  | nil => exact (Nat.zero_add _).symm
  | cons c rest ih => rw [List.cons_append, codeUnits_cons, codeUnits_cons, ih, Nat.add_assoc]

theorem units_utf16 (s : List Char) : units .utf16 s = codeUnits .utf16 s := by
  induction s with
  | nil => rfl
  | cons c s ih =>
      rw [units_cons, codeUnits_cons, ih]
      rfl

theorem charsWithin_utf16 (n : Nat) (s : List Char) :
    charsWithin .utf16 n s = reach .utf16 n s := by
  induction s generalizing n with
  | nil => cases n <;> rfl
  | cons c s ih =>
      cases n with
      | zero => rfl
      | succ n =>
          rw [charsWithin, reach, ih]
          rfl

theorem reach_zero (e : Encoding) (s : List Char) : reach e 0 s = 0 := by
  cases s <;> rfl

/-- The code units of a text lead back to that text. -/
theorem reach_codeUnits (e : Encoding) (s u : List Char) :
    reach e (codeUnits e s) (s ++ u) = s.length := by
  induction s with
  | nil => exact reach_zero e u
  | cons c s ih =>
      have hpos := codeUnits_pos e c
      obtain ⟨n, hn⟩ : ∃ n, e.codeUnits c + codeUnits e s = n + 1 :=
        ⟨e.codeUnits c + codeUnits e s - 1, by omega⟩
      have hrest : n + 1 - e.codeUnits c = codeUnits e s := by omega
      rw [codeUnits_cons, hn, List.cons_append, reach, hrest, ih, List.length_cons]

theorem reach_append (e : Encoding) {n : Nat} {s : List Char} (hn : n ≤ codeUnits e s)
    (u : List Char) : reach e n (s ++ u) = reach e n s := by
  induction s generalizing n with
  | nil =>
      obtain rfl : n = 0 := Nat.le_zero.1 hn
      rw [reach_zero, reach_zero]
  | cons c s ih =>
      cases n with
      | zero => rfl
      | succ n =>
          rw [codeUnits_cons] at hn
          rw [List.cons_append, reach, reach, ih (by omega)]

end Text

open Text

/-! ## Codecs -/

/-- The conversion of positions between two ends that count columns differently, by the lines of
the document with their endings. -/
structure Codec where
  /-- The position that the other end means. -/
  decode : List (List Char) → Position → Position
  /-- The position as it is told to the other end. -/
  encode : List (List Char) → Position → Position

namespace Codec

def decodeSpan (codec : Codec) (lines : List (List Char)) (s : Span) : Span :=
  ⟨codec.decode lines s.start, codec.decode lines s.stop⟩

/-- A codec counts the code units of each character, in both directions. What it makes of lines that
are not there, of columns behind a line and of the ending of a line is left open. -/
structure Counts (codec : Codec) (e : Encoding) : Prop where
  decode : ∀ {lines i line ending column}, lines[i]? = some (line ++ ending) →
    (∀ c ∈ line, isBreak c = false) → column ≤ codeUnits e line →
    codec.decode lines ⟨i, column⟩ = ⟨i, reach e column line⟩
  encode : ∀ {lines i line ending column}, lines[i]? = some (line ++ ending) →
    (∀ c ∈ line, isBreak c = false) → column ≤ line.length →
    codec.encode lines ⟨i, column⟩ = ⟨i, codeUnits e (line.take column)⟩

/-- A codec that measures the line with its ending. -/
def counting (e : Encoding) : Codec where
  decode lines p := ⟨p.line, reach e p.column (lines[p.line]?.getD [])⟩
  encode lines p := ⟨p.line, codeUnits e ((lines[p.line]?.getD []).take p.column)⟩

theorem counts_counting (e : Encoding) : (counting e).Counts e where
  decode := by
    intro lines i line ending column hline _ hcolumn
    simp only [counting, hline, Option.getD_some, reach_append e hcolumn]
  encode := by
    intro lines i line ending column hline _ hcolumn
    simp only [counting, hline, Option.getD_some, List.take_append_of_le_length hcolumn]

/-- The codec of the library. -/
def ofEncoding (e : Encoding) : Codec :=
  ⟨Position.ofUnits e, Position.toUnits e⟩

theorem counts_utf16 : (ofEncoding .utf16).Counts .utf16 where
  decode := by
    intro lines i line ending column hline hplain hcolumn
    have hne : lines ≠ [] := by
      rintro rfl
      cases hline
    have htotal : column ≤ units .utf16 (line ++ unifyBreaks ending) := by
      rw [units_append, units_utf16]
      omega
    simp only [ofEncoding, Position.ofUnits, List.getLast?_eq_some_getLast hne, hline,
      Position.unifyBreaks_append hplain]
    rw [if_neg (by omega), charsWithin_utf16, reach_append .utf16 hcolumn]
  encode := by
    intro lines i line ending column hline _ hcolumn
    simp only [ofEncoding, Position.toUnits, hline, List.take_append_of_le_length hcolumn,
      units_utf16]

/-- The codec of the library counts the code units of UTF-16 only: in the other encodings it has
one unit for each character of the basic plane, or takes more for a character above it than it
counts. -/
theorem counts_ofEncoding_iff {e : Encoding} : (ofEncoding e).Counts e ↔ e = .utf16 := by
  constructor
  · intro h
    cases e with
    | utf8 =>
        have hwrong : (ofEncoding .utf8).encode [['é']] ⟨0, 1⟩ = ⟨0, 2⟩ :=
          h.encode (show [['é']][0]? = some (['é'] ++ []) from rfl)
            (List.forall_mem_singleton.2 (by decide)) (by decide)
        exact absurd hwrong (by decide)
    | utf16 => rfl
    | utf32 =>
        have hwrong : (ofEncoding .utf32).decode [['𝒳', 'a']] ⟨0, 2⟩ = ⟨0, 2⟩ :=
          h.decode (show [['𝒳', 'a']][0]? = some (['𝒳', 'a'] ++ []) from rfl)
            (List.forall_mem_cons.2 ⟨by decide, List.forall_mem_singleton.2 (by decide)⟩) (by decide)
        exact absurd hwrong (by decide)
  · rintro rfl
    exact counts_utf16

/-- A place within a line is decoded to the number of characters before it, and encoded again as
it was. -/
theorem Counts.return_place {codec : Codec} {e : Encoding} (h : codec.Counts e)
    {text line : List Char} {i k : Nat} (hline : (lines text)[i]? = some line)
    (hk : k ≤ line.length) :
    codec.decode (wholeLines text) ⟨i, codeUnits e (line.take k)⟩ = ⟨i, k⟩ ∧
      codec.encode (wholeLines text) ⟨i, k⟩ = ⟨i, codeUnits e (line.take k)⟩ := by
  obtain ⟨ending, hsound, hwhole⟩ := exists_ending_of_line hline
  have hsplit : codeUnits e line = codeUnits e (line.take k) + codeUnits e (line.drop k) := by
    rw [← codeUnits_append, List.take_append_drop]
  have hreach : reach e (codeUnits e (line.take k)) line = k := by
    have hback := reach_codeUnits e (line.take k) (line.drop k)
    rwa [List.take_append_drop, List.length_take, Nat.min_eq_left hk] at hback
  refine ⟨?_, h.encode hwhole hsound.text hk⟩
  rw [h.decode hwhole hsound.text (by omega), hreach]

end Codec

/-! ## Calls through a codec -/

namespace Session

open Query

def encodeWith (codec : Codec) (uri : String) (p : Position) : Talk Position := do
  return codec.encode (lines (← get) uri) p

def decodeWith (codec : Codec) (l : Location) : Talk Location := do
  return ⟨l.uri, codec.decodeSpan (lines (← get) l.uri) l.span⟩

def outlineWith (codec : Codec) (uri : String) : Talk (Option (List OutlineSymbol)) := do
  ensureOpen uri
  match ← ask (.documentSymbol uri) with
  | none => return none
  | some d =>
    let lines := lines (← get) uri
    return some <| (OutlineSymbol.ofAnswer d).map fun s =>
      { s with
        span := codec.decodeSpan lines s.span
        selection := codec.decode lines s.selection }

def prepareWith (codec : Codec) (x : Session) (uri : String) (p : Position) :
    Talk (Option (List HierarchyNode)) := do
  if !x.hierarchy then return none
  ensureOpen uri
  return (← ask (.prepareTypeHierarchy uri (← encodeWith codec uri p))).map nodes

/-- Where a place in a document leads, told by a codec. -/
def jumpWith (codec : Codec) (uri : String) (p : Position) : Talk (Option (List Location)) := do
  ensureOpen uri
  match ← ask (.definition uri (← encodeWith codec uri p)) with
  | none => return none
  | some d => return some (← (Location.ofDefinitions d).mapM (decodeWith codec))

theorem encodeWith_ofEncoding (x : Session) (uri : String) (p : Position) :
    encodeWith (.ofEncoding x.encoding) uri p = x.encode uri p := by
  simp only [encodeWith, encode, Codec.ofEncoding]

theorem decodeWith_ofEncoding (x : Session) : decodeWith (.ofEncoding x.encoding) = x.decode := by
  funext l
  simp only [decodeWith, decode, Codec.decodeSpan, Codec.ofEncoding, Span.ofUnits]

theorem outlineWith_ofEncoding (x : Session) (uri : String) :
    outlineWith (.ofEncoding x.encoding) uri = x.outline uri := by
  unfold outlineWith outline
  refine bind_congr fun _ => bind_congr fun answer => ?_
  cases answer with
  | none => rfl
  | some d => simp only [Codec.decodeSpan, Codec.ofEncoding, Span.ofUnits]

theorem prepareWith_ofEncoding (x : Session) (uri : String) (p : Position) :
    prepareWith (.ofEncoding x.encoding) x uri p = x.prepare uri p := by
  unfold prepareWith prepare
  rw [encodeWith_ofEncoding]

theorem jumpWith_ofEncoding (x : Session) (uri : String) (p : Position) :
    jumpWith (.ofEncoding x.encoding) uri p = x.jump uri p := by
  unfold jumpWith jump
  rw [encodeWith_ofEncoding]
  refine bind_congr fun _ => bind_congr fun told => bind_congr fun answer => ?_
  cases answer with
  | none => rfl
  | some d => simp only [decodeWith_ofEncoding]

section Calls

variable {codec : Codec} {x : Session} {s : SessionState} {uri : String}

theorem outlineWith_answer (codec : Codec) (s : SessionState) (uri : String) :
    ((outlineWith codec uri).run.run s).1 =
      .ok ((s.nextReply "textDocument/documentSymbol").result?.map fun d =>
        (OutlineSymbol.ofAnswer d).map fun o =>
          { o with
            span := codec.decodeSpan (lines s uri) o.span
            selection := codec.decode (lines s uri) o.selection }) := by
  obtain ⟨s₁, hopen, htree, hreplies⟩ := ensureOpen_run s uri
  rw [outlineWith, run_bind_of_ok _ hopen, run_bind_of_ok _ (ask_run _ _),
    show Message.method (.documentSymbol uri) = "textDocument/documentSymbol" from rfl,
    nextReply_congr hreplies]
  cases (s.nextReply "textDocument/documentSymbol").result? with
  | none => rfl
  | some d =>
      rw [← lines_congr htree uri]
      rfl

theorem sends_encodeWith (codec : Codec) (uri : String) (p : Position) {s₁ : SessionState}
    (h : s₁.tree = s.tree) :
    Sends (encodeWith codec uri p) s₁ (codec.encode (lines s uri) p) s₁ [] := by
  refine sends_look ?_
  rw [← lines_congr h uri]
  rfl

theorem sends_prepareWith (codec : Codec) (uri : String) (p : Position) (s : SessionState)
    (hx : x.hierarchy = true) :
    ∃ a s₁, Sends (prepareWith codec x uri p) s a s₁
      (opening s uri ++ [.prepareTypeHierarchy uri (codec.encode (lines s uri) p)]) := by
  unfold prepareWith
  rw [hx]
  obtain ⟨s₁, hopen⟩ := sends_ensureOpen s uri
  obtain ⟨answer, s₂, hask⟩ := sends_ask
    (m := .prepareTypeHierarchy uri (codec.encode (lines s uri) p)) rfl s₁
  exact ⟨_, s₂, hopen.bind ((sends_encodeWith codec uri p hopen.tree).bind
    (hask.bind (sends_pure _ s₂)))⟩

theorem sends_jumpWith (codec : Codec) (uri : String) (p : Position) (s : SessionState) :
    ∃ a s₁, Sends (jumpWith codec uri p) s a s₁
      (opening s uri ++ [.definition uri (codec.encode (lines s uri) p)]) := by
  unfold jumpWith
  obtain ⟨s₁, hopen⟩ := sends_ensureOpen s uri
  have htold := sends_encodeWith codec uri p hopen.tree
  obtain ⟨answer, s₂, hask⟩ := sends_ask (m := .definition uri (codec.encode (lines s uri) p)) rfl s₁
  cases answer with
  | none => exact ⟨none, s₂, hopen.bind (htold.bind (hask.bind (sends_pure none s₂)))⟩
  | some d =>
      have hfound := sends_mapM (f := decodeWith codec) (fun _ => rfl)
        (Location.ofDefinitions d) (s := s₂)
      exact ⟨_, s₂, hopen.bind (htold.bind (hask.bind (hfound.bind (sends_pure _ s₂))))⟩

end Calls

def Names (answer : Datum) (e : Encoding) : Prop :=
  ∃ capabilities, answer.get? "capabilities" = some capabilities ∧
    capabilities.textAt? "positionEncoding" = some e.name

theorem encoding_ofAnswer {answer : Datum} {e : Encoding} (h : Names answer e) :
    (ofAnswer answer).encoding = e := by
  obtain ⟨capabilities, hcapabilities, hname⟩ := h
  simp only [ofAnswer, hcapabilities, Option.getD_some, hname]
  cases e <;> rfl

/-- A session counts columns in the encoding that the server named. A symbol of an outline whose
name begins within a line is shown at the number of characters before it, and a question about that
place names it as the server did, as long as the document has the text that it had. -/
theorem selection_returned {command : List String} {root : Path} {start₀ started : SessionState}
    {x : Session} (hstart : (start command root).run.run start₀ = (.ok x, started)) {codec : Codec}
    (hcodec : codec.Counts x.encoding) {s : SessionState} {uri : String} {d : Datum}
    (hreply : (s.nextReply "textDocument/documentSymbol").result? = some d) :
    (∀ answer e, start₀.nextReply "initialize" = .result answer → Names answer e →
      x.encoding = e) ∧
    ∃ symbols, ((outlineWith codec uri).run.run s).1 = .ok (some symbols) ∧
      List.Forall₂ (fun reported shown => ∀ i k line,
          (Text.lines ((text? s uri).getD "").toList)[i]? = some line → k ≤ line.length →
          reported.selection = ⟨i, codeUnits x.encoding (line.take k)⟩ →
          shown.selection = ⟨i, k⟩ ∧
            ∀ now : SessionState, text? now uri = text? s uri →
              (∃ a later, Sends (jumpWith codec uri shown.selection) now a later
                (opening now uri ++ [.definition uri reported.selection])) ∧
              (x.hierarchy = true →
                ∃ a later, Sends (prepareWith codec x uri shown.selection) now a later
                  (opening now uri ++ [.prepareTypeHierarchy uri reported.selection])))
        (OutlineSymbol.ofAnswer d) symbols := by
  obtain ⟨-, root, agreed, hagreed, rfl, -⟩ := start_eq_ok hstart
  have hsymbols := outlineWith_answer codec s uri
  rw [hreply, Option.map_some] at hsymbols
  refine ⟨fun answer e hanswer hnames => ?_, _, hsymbols, ?_⟩
  · cases hagreed.symm.trans hanswer
    exact encoding_ofAnswer hnames
  · rw [List.forall₂_map_right_iff]
    refine List.forall₂_same.2 fun reported _ i k line hline hk hreported => ?_
    obtain ⟨hdecode, hencode⟩ := hcodec.return_place hline hk
    have hshown : codec.decode (lines s uri) reported.selection = ⟨i, k⟩ := by
      rw [hreported]
      exact hdecode
    refine ⟨hshown, fun now hnow => ?_⟩
    have hlines : lines now uri = lines s uri := by rw [lines, lines, hnow]
    have htold : codec.encode (lines now uri) ⟨i, k⟩ = reported.selection := by
      rw [hlines, hreported]
      exact hencode
    rw [hshown]
    refine ⟨?_, fun hhierarchy => ?_⟩
    · rw [← htold]
      exact sends_jumpWith codec uri ⟨i, k⟩ now
    · rw [← htold]
      exact sends_prepareWith codec uri ⟨i, k⟩ now hhierarchy

/-! ## A name behind a character of two units -/

def astralText : String :=
  "x = '𝒳'; A = object\n"

/-- The class of the text, nine characters and ten units behind the start of its line. -/
def astralAnswer : Datum :=
  .list [.table [("name", .text "A"), ("kind", .int 5), ("range", Span.data ⟨⟨0, 10⟩, ⟨0, 20⟩⟩),
    ("selectionRange", Span.data ⟨⟨0, 10⟩, ⟨0, 11⟩⟩)]]

def astralOffer : Datum :=
  .table [("capabilities",
    .table [("positionEncoding", .text "utf-16"), ("typeHierarchyProvider", .bool true)])]

def astralStart : SessionState where
  tree := toolsTree astralText
  replies := some [("initialize", [.result astralOffer]),
    ("textDocument/documentSymbol", [.result astralAnswer])]
  sent := []
  opened := []

def astralSession : SessionState :=
  ((start ["server"] lateRoot).run.run astralStart).2

theorem selection_returned_astral :
    (start ["server"] lateRoot).run.run astralStart = (.ok ⟨.utf16, true⟩, astralSession) ∧
      (Codec.ofEncoding .utf16).Counts .utf16 ∧
      ∃ shown, ((outline ⟨.utf16, true⟩ toolsUri).run.run astralSession).1 = .ok (some [shown]) ∧
        shown.selection = ⟨0, 9⟩ ∧
        (∃ a later, Sends (jump ⟨.utf16, true⟩ toolsUri shown.selection) astralSession a later
          (opening astralSession toolsUri ++ [.definition toolsUri ⟨0, 10⟩])) ∧
        ∃ a later, Sends (prepare ⟨.utf16, true⟩ toolsUri shown.selection) astralSession a later
          (opening astralSession toolsUri ++ [.prepareTypeHierarchy toolsUri ⟨0, 10⟩]) := by
  have hstart : (start ["server"] lateRoot).run.run astralStart =
      (.ok ⟨.utf16, true⟩, astralSession) := rfl
  have hreply : (astralSession.nextReply "textDocument/documentSymbol").result? =
      some astralAnswer := rfl
  have htext : text? astralSession toolsUri = some astralText := by decide +kernel
  have hreported : OutlineSymbol.ofAnswer astralAnswer =
      [⟨"A", .type, ⟨⟨0, 10⟩, ⟨0, 20⟩⟩, ⟨0, 10⟩, none⟩] := rfl
  obtain ⟨-, symbols, hsymbols, hall⟩ :=
    @selection_returned _ _ _ _ _ hstart _ Codec.counts_utf16 _ toolsUri _ hreply
  rw [hreported, htext] at hall
  obtain ⟨shown, rest, hshown, hrest, rfl⟩ := List.forall₂_cons_left_iff.1 hall
  obtain rfl := List.forall₂_nil_left_iff.1 hrest
  obtain ⟨hplace, hsent⟩ := hshown 0 9 "x = '𝒳'; A = object".toList (by decide) (by decide)
    (by decide)
  obtain ⟨hjump, hprepare⟩ := hsent astralSession htext
  rw [outlineWith_ofEncoding ⟨.utf16, true⟩] at hsymbols
  rw [jumpWith_ofEncoding ⟨.utf16, true⟩] at hjump
  rw [prepareWith_ofEncoding ⟨.utf16, true⟩] at hprepare
  exact ⟨hstart, Codec.counts_utf16, shown, hsymbols, hplace, hjump, hprepare rfl⟩

end Session

end LozengeNav
