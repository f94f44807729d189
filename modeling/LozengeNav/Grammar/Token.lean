import LozengeNav.Grammar.Numeral
import LozengeNav.Text.Letter
import LozengeNav.Text.Line

/-!
# Tokens of Python sources

A source as the tokens that its grammar is about.  Rows end outside of brackets only; deeper and
shallower indentation of a row shows as tokens of its own.  A source with a piece that is no token
has none at all.
-/

namespace LozengeNav

namespace Grammar

/-- What a token is. -/
inductive TokenKind where
  | word
  | number
  | literal
  | mark
  | rowEnd
  | indent
  | dedent
  deriving DecidableEq, Repr

structure Token where
  kind : TokenKind
  text : String
  line : Nat
  deriving DecidableEq, Repr

/-! ## Pieces -/

def longMarks : List String :=
  ["**=", "//=", ">>=", "<<=", "...", "!=", "%=", "&=", "**", "*=", "+=", "-=", "->", "//", "/=",
   ":=", "<<", "<=", "<>", "==", ">=", ">>", "@=", "^=", "|="]

def shortMarks : List Char :=
  "%&()*+,-./:;<=>@[]^\x7b|\x7d~".toList

def mark? (s : List Char) : Option (List Char) :=
  match longMarks.find? fun m => m.toList.isPrefixOf s with
  | some m => some m.toList
  | none => (s.head?.filter shortMarks.contains).map fun c => [c]

/-- The letters that may stand in front of a literal. -/
def isLiteralMarker (s : List Char) : Bool :=
  ["", "b", "br", "rb", "u", "r", "f", "fr", "rf"].contains
    (String.ofList (s.map Char.toLower))

/-- The length of a literal behind its opening quotes, closing quotes included; `run` quotes stand
directly before. -/
def closingLength? (quote : Char) (size run : Nat) : List Char → Option Nat
  | [] => none
  | [c] => if c = quote && run + 1 = size then some 1 else none
  | c :: d :: rest =>
    if c = quote then
      if run + 1 = size then some 1
      else (closingLength? quote size (run + 1) (d :: rest)).map (· + 1)
    else if c = '\\' then (closingLength? quote size 0 rest).map (· + 2)
    else if c = '\n' && size = 1 then none
    else (closingLength? quote size 0 (d :: rest)).map (· + 1)

def literalLength? (quote : Char) (after : List Char) : Option Nat :=
  if [quote, quote].isPrefixOf after then (closingLength? quote 3 0 (after.drop 2)).map (· + 2)
  else closingLength? quote 1 0 after

def isIdentifier : List Char → Bool
  | [] => false
  | c :: rest => Text.isNameStart c && rest.all Text.isNameContinue

/-- The token that begins at a character that neither ends a row nor separates tokens. -/
def piece? (s : List Char) : Option (TokenKind × List Char) :=
  match s with
  | [] => none
  | c :: rest =>
    if c = '"' || c = '\'' then
      (literalLength? c rest).map fun n => (.literal, s.take (n + 1))
    else if c.isDigit then
      (Numeral.rest? s).map fun r => (.number, s.take (s.length - r.length))
    else if c = '.' && rest.head?.any Char.isDigit then
      (Numeral.fraction rest).map fun r => (.number, s.take (s.length - r.length))
    else if Numeral.inWord c then
      let word := s.takeWhile Numeral.inWord
      let after := s.dropWhile Numeral.inWord
      match after with
      | q :: more =>
        if (q = '"' || q = '\'') && isLiteralMarker word then
          (literalLength? q more).map fun n => (.literal, s.take (word.length + n + 1))
        else if isIdentifier word then some (.word, word) else none
      | [] => if isIdentifier word then some (.word, word) else none
    else (mark? s).map fun m => (.mark, m)

/-! ## Margins -/

/-- The width of an indentation with tabs to every eighth column, and with tabs as single blanks.
Two rows agree if both widths do. -/
structure Margin where
  wide : Nat
  narrow : Nat
  deriving DecidableEq, Repr

/-- Blanks at the start of a row: the width at the first continued line, if any, the width so far,
and the number of characters.  No answer if a continuation is broken. -/
def marginFrom (held : Nat) (m : Margin) (count : Nat) : List Char → Option (Margin × Nat)
  | ' ' :: rest => marginFrom held ⟨m.wide + 1, m.narrow + 1⟩ (count + 1) rest
  | '\t' :: rest => marginFrom held ⟨(m.wide / 8 + 1) * 8, m.narrow + 1⟩ (count + 1) rest
  | '\x0C' :: rest => marginFrom held ⟨0, 0⟩ (count + 1) rest
  | '\\' :: '\n' :: c :: rest =>
    marginFrom (if held = 0 then m.wide else held) m (count + 2) (c :: rest)
  | '\\' :: _ => none
  | _ => some (if held = 0 then m else ⟨held, held⟩, count)

/-- The margins of the open blocks, the innermost first; the outermost is always there. -/
abbrev Margins :=
  List Margin

/-- Close blocks that are indented further than a row, and count them. -/
def closeBlocks (wide : Nat) : Margins → Margins × Nat
  | [] => ([], 0)
  | m :: outer =>
    if wide < m.wide then
      let (kept, n) := closeBlocks wide outer
      (kept, n + 1)
    else (m :: outer, 0)

def marginLimit : Nat :=
  99

def align (margins : Margins) (m : Margin) : Option (Margins × List TokenKind) :=
  let top := margins.headD ⟨0, 0⟩
  if m.wide = top.wide then
    if m.narrow = top.narrow then some (margins, []) else none
  else if top.wide < m.wide then
    if m.narrow ≤ top.narrow || marginLimit ≤ margins.length then none
    else some (m :: margins, [.indent])
  else
    let (kept, n) := closeBlocks m.wide margins
    if kept.headD ⟨0, 0⟩ = m then some (kept, List.replicate n .dedent) else none

/-! ## Tokens -/

/-- What a reader remembers between tokens. -/
structure Reader where
  line : Nat
  fresh : Bool
  /-- The row has nothing but blanks and a comment. -/
  blank : Bool
  margins : Margins
  brackets : List Char
  deriving DecidableEq, Repr

namespace Reader

def initial : Reader :=
  ⟨1, true, false, [], []⟩

def bracketLimit : Nat :=
  200

def closing? : List Char → Option Char
  | ['('] => some ')'
  | ['['] => some ']'
  | ['{'] => some '}'
  | _ => none

def isClosing (s : List Char) : Bool :=
  s == [')'] || s == [']'] || s == ['}']

/-- Open or close a bracket. -/
def balance (r : Reader) (mark : List Char) : Option Reader :=
  match closing? mark with
  | some c => if r.brackets.length < bracketLimit then some { r with brackets := c :: r.brackets }
    else none
  | none =>
    if isClosing mark then
      match r.brackets with
      | c :: outer => if mark = [c] then some { r with brackets := outer } else none
      | [] => none
    else some r

def token (r : Reader) (kind : TokenKind) (text : List Char) : Token :=
  ⟨kind, String.ofList text, r.line⟩

/-- Begin a row: the reader, the indentation tokens, and the number of characters read. -/
def begin (r : Reader) (s : List Char) : Option (Reader × List Token × Nat) := do
  let (m, count) ← marginFrom 0 ⟨0, 0⟩ 0 s
  let r := { r with fresh := false, blank := false }
  let next := (s.drop count).head?
  if next = some '#' || next = some '\n' then
    return ({ r with blank := true }, [], count)
  else if r.brackets.isEmpty then
    let (margins, kinds) ← align r.margins m
    return ({ r with margins := margins }, kinds.map fun k => r.token k [], count)
  else
    return (r, [], count)

/-- Read at a character within a row: the reader, the tokens, and the number of characters read
behind this one. -/
def next (r : Reader) (c : Char) (rest : List Char) : Option (Reader × List Token × Nat) :=
  if c = ' ' || c = '\t' || c = '\x0C' then some (r, [], 0)
  else if c = '#' then some (r, [], (rest.takeWhile (· ≠ '\n')).length)
  else if c = '\n' then
    let ends := !r.blank && r.brackets.isEmpty
    some ({ r with fresh := true }, if ends then [r.token .rowEnd []] else [], 0)
  else if c = '\\' then
    match rest with
    | '\n' :: _ :: _ => some (r, [], 1)
    | _ => none
  else do
    let (kind, text) ← piece? (c :: rest)
    let r ← if kind = .mark then r.balance text else some r
    return (r, [r.token kind text], text.length - 1)

/-- Read a text; the next `skip` characters have been read. -/
def read (r : Reader) (skip : Nat) : List Char → Option (List Token)
  | [] =>
    if r.brackets.isEmpty then some (r.margins.map fun _ => r.token .dedent []) else none
  | c :: rest =>
    let after (r : Reader) : Reader := if c = '\n' then { r with line := r.line + 1 } else r
    match skip with
    | skip + 1 => (after r).read skip rest
    | 0 => do
      let (r, opening, count) ← if r.fresh then r.begin (c :: rest) else some (r, [], 0)
      match count with
      | count + 1 => return opening ++ (← (after r).read count rest)
      | 0 =>
        let (r, tokens, count) ← r.next c rest
        return opening ++ tokens ++ (← (after r).read count rest)

end Reader

def closeLastLine (s : List Char) : List Char :=
  if s.getLast? = some '\n' then s else s ++ ['\n']

def tokens? (source : List Char) : Option (List Token) :=
  if source.contains '\x00' then none
  else Reader.initial.read 0 (closeLastLine (Text.unifyBreaks source))

end Grammar

end LozengeNav
