import LozengeNav.Location
import LozengeNav.Text.Letter

/-!
# Lexemes of Python sources

A source cut into lexemes, as much as its layout depends on: line breaks, blanks, comments, string
literals, words, brackets and colons.  Nothing is left out, so the texts of the lexemes join back to
the source (`Lexeme.join_scan`).
-/

namespace LozengeNav

namespace Outline

/-! ## String literals -/

/-- What the inside of a string literal is. -/
inductive Inside where
  /-- Text up to the closing quotes. -/
  | text (quote : Char) (triple raw format : Bool)
  /-- A replacement field, with as many open brackets. -/
  | field (depth : Nat)
  /-- The format specification of a replacement field. -/
  | specification
  deriving DecidableEq, Repr

/-- A quote that may delimit a literal. -/
def isQuote (c : Char) : Bool :=
  c == '"' || c == '\'' || c == '`'

/-- A letter that may stand in front of a literal. -/
def isMarker (c : Char) : Bool :=
  ['f', 'F', 't', 'T', 'r', 'R', 'b', 'B', 'u', 'U'].contains c

/-- The inside that a quote opens behind some markers, and the number of quotes. -/
def openLiteral (markers : List Char) (quote : Char) (after : List Char) : Inside × Nat :=
  let triple := [quote, quote].isPrefixOf after
  let raw := markers.any fun c => c == 'r' || c == 'R'
  let format := markers.any fun c => c == 'f' || c == 'F' || c == 't' || c == 'T'
  (.text quote triple raw format, if triple then 3 else 1)

/-- The length of a name in braces behind `\N`, of which the brace is the first character. -/
def namedEscape? (s : List Char) : Option Nat :=
  match s with
  | '{' :: rest =>
    let name := rest.takeWhile fun c => c != '}'
    if name.isEmpty || name.length = rest.length then none else some (name.length + 2)
  | _ => none

/-- The number of characters that a backslash makes one piece with, itself not counted. -/
def escaped (quote : Char) (raw : Bool) : List Char → Nat
  | [] => 0
  | c :: rest =>
    if raw then (if c = quote || c = '\\' then 1 else 0)
    else if c = '\'' || c = '"' || c = '\\' || c = '\n' then 1
    else if c = 'N' then ((namedEscape? rest).map (· + 1)).getD 0
    else 0

/-- The innermost inside of a field or specification is left at its closing brace. -/
def stepInside (stack : List Inside) (c : Char) (rest : List Char) : List Inside × Nat :=
  match stack with
  | [] => ([], 0)
  | .text quote triple raw format :: outer =>
    if c = '\\' then (stack, escaped quote raw rest)
    else if c = quote then
      if !triple then (outer, 0)
      else if [quote, quote].isPrefixOf rest then (outer, 2)
      else (stack, 0)
    else if format && (c = '{' || c = '}') then
      if rest.head? = some c then (stack, 1)
      else if c = '{' then (.field 0 :: stack, 0)
      else (stack, 0)
    else (stack, 0)
  | .field depth :: outer =>
    if isQuote c then
      let (inside, quotes) := openLiteral [] c rest
      (inside :: stack, quotes - 1)
    else if c = '#' then (stack, (rest.takeWhile (· ≠ '\n')).length)
    else if c = '(' || c = '[' || c = '{' then (.field (depth + 1) :: outer, 0)
    else if depth = 0 && c = '}' then (outer, 0)
    else if depth = 0 && c = ':' then (.specification :: outer, 0)
    else if c = ')' || c = ']' || c = '}' then (.field (depth - 1) :: outer, 0)
    else if Text.isNameContinue c then
      let word := c :: rest.takeWhile Text.isNameContinue
      match rest.dropWhile Text.isNameContinue with
      | quote :: after =>
        if isQuote quote && word.all isMarker then
          let (inside, quotes) := openLiteral word quote after
          (inside :: stack, word.length - 1 + quotes)
        else (stack, word.length - 1)
      | [] => (stack, word.length - 1)
    else (stack, 0)
  | .specification :: outer =>
    if c = '{' then (.field 0 :: stack, 0)
    else if c = '}' then (outer, 0)
    else (stack, 0)

/-- The number of characters until all insides are closed; the next `skip` characters belong to a
piece that was looked at. -/
def insideLength (stack : List Inside) (skip : Nat) : List Char → Nat
  | [] => 0
  | c :: rest =>
    match skip with
    | skip + 1 => insideLength stack skip rest + 1
    | 0 =>
      match stack with
      | [] => 0
      | _ =>
        let (stack, skip) := stepInside stack c rest
        insideLength stack skip rest + 1

def literalLength (markers : List Char) (quote : Char) (after : List Char) : Nat :=
  let (inside, quotes) := openLiteral markers quote after
  insideLength [inside] (quotes - 1) after

/-! ## Lexemes -/

/-- What a lexeme is. -/
inductive LexemeKind where
  | lineBreak
  | blank
  | comment
  | literal
  | word
  | number
  | opening
  | closing
  | colon
  | mark
  deriving DecidableEq, Repr

structure Lexeme where
  kind : LexemeKind
  text : List Char
  deriving DecidableEq, Repr

def isGap (c : Char) : Bool :=
  c == ' ' || c == '\t' || c == '\r' || c == '\x0B' || c == '\x0C' || c == '\uFEFF' ||
    c == '\u2060' || c == '\u200B'

def continuesNumber (c : Char) : Bool :=
  Text.isNameContinue c || c == '.'

/-- What begins at a character, and how many characters behind it belong to it. -/
def classify (c : Char) (rest : List Char) : LexemeKind × Nat :=
  if c = '\n' then (.lineBreak, 0)
  else if c = '\\' then
    match rest with
    | '\n' :: _ => (.blank, 1)
    | '\r' :: '\n' :: _ => (.blank, 2)
    | _ => (.mark, 0)
  else if isGap c then (.blank, (rest.takeWhile isGap).length)
  else if c = '#' then (.comment, (rest.takeWhile (· ≠ '\n')).length)
  else if isQuote c then (.literal, literalLength [] c rest)
  else if c = '(' || c = '[' || c = '{' then (.opening, 0)
  else if c = ')' || c = ']' || c = '}' then (.closing, 0)
  else if c = ':' then (.colon, 0)
  else if c.isDigit then (.number, (rest.takeWhile continuesNumber).length)
  else if Text.isNameContinue c then
    let tail := rest.takeWhile Text.isNameContinue
    match rest.dropWhile Text.isNameContinue with
    | quote :: after =>
      if isQuote quote && (c :: tail).all isMarker then
        (.literal, tail.length + 1 + literalLength (c :: tail) quote after)
      else (.word, tail.length)
    | [] => (.word, tail.length)
  else (.mark, 0)

namespace Lexeme

def scan (s : List Char) : List Lexeme :=
  match s with
  | [] => []
  | c :: rest =>
    let (kind, length) := classify c rest
    ⟨kind, c :: rest.take length⟩ :: scan (rest.drop length)
termination_by s.length
decreasing_by simp only [List.length_drop, List.length_cons]; omega

theorem join_scan (s : List Char) : (scan s).flatMap text = s := by
  fun_induction scan s with
  | case1 => rfl
  | case2 c rest kind length _ ih => simp [ih]

end Lexeme

/-! ## Places -/

/-- A lexeme and where it stands. -/
structure Placed where
  lexeme : Lexeme
  start : Position
  stop : Position
  deriving DecidableEq, Repr

namespace Placed

/-- Give lexemes that follow each other from a place on their places. -/
def ofLexemes (start : Position) : List Lexeme → List Placed
  | [] => []
  | l :: rest =>
    let stop := start.advance l.text
    ⟨l, start, stop⟩ :: ofLexemes stop rest

def scan (s : List Char) : List Placed :=
  ofLexemes .origin (Lexeme.scan s)

end Placed

end Outline

end LozengeNav
