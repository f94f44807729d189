/-!
# Wildcards

Patterns for names: `*` for any run of characters, `?` for any character, and brackets for one
character of a set.  A pattern has to match a whole name.
-/

namespace LozengeNav

namespace Wildcard

inductive Piece where
  | char (c : Char)
  | any
  | run
  /-- One character in one of the ranges, or in none of them. -/
  | set (negated : Bool) (ranges : List (Char × Char))
  deriving DecidableEq, Repr

namespace Piece

def admits (c : Char) : Piece → Bool
  | char d => c = d
  | any => true
  | run => false
  | set negated ranges => negated != ranges.any fun r => r.1 ≤ c && c ≤ r.2

end Piece

/-! ## Sets -/

/-- Characters in ranges of their own. -/
def singles (s : List Char) : List (Char × Char) :=
  s.map fun c => (c, c)

/-- Cut a set at the hyphens that make ranges.  A hyphen makes one if a character stands before it
and at least two characters have passed since the one before; the first `skip` characters are passed
over. -/
def cut (skip : Nat) : List Char → List (List Char)
  | [] => [[]]
  | c :: rest =>
    match skip with
    | skip + 1 =>
      match cut skip rest with
      | [] => [[c]]
      | chunk :: chunks => (c :: chunk) :: chunks
    | 0 =>
      if c = '-' then [] :: cut 2 rest
      else
        match cut 0 rest with
        | [] => [[c]]
        | chunk :: chunks => (c :: chunk) :: chunks

/-- A hyphen at the end of a set makes no range. -/
def keepLastHyphen : List (List Char) → List (List Char)
  | [] => []
  | [chunk] => [chunk]
  | [chunk, []] => [chunk ++ ['-']]
  | chunk :: chunks => chunk :: keepLastHyphen chunks

/-- Join two chunks of which the last and the first character make a range with nothing in it; the
two are left out. -/
def joinEmpty : List (List Char) → List (List Char)
  | [] => []
  | chunk :: chunks =>
    match joinEmpty chunks with
    | [] => [chunk]
    | next :: more =>
      match chunk.getLast?, next with
      | some low, high :: tail =>
        if high < low then (chunk.dropLast ++ tail) :: more else chunk :: next :: more
      | _, _ => chunk :: next :: more

/-- The ranges of chunks: the last character of one and the first of the next are the ends of a
range, all other characters stand for themselves. -/
def rangesOf : List (List Char) → List (Char × Char)
  | [] => []
  | [chunk] => singles chunk
  | chunk :: next :: chunks =>
    match chunk.getLast?, next with
    | some low, high :: _ => singles chunk ++ (low, high) :: rangesOf (next :: chunks)
    | _, _ => singles chunk ++ rangesOf (next :: chunks)

def setOf (body : List Char) : Piece :=
  let negated := body.head? = some '!'
  let chunks :=
    if body.contains '-' then joinEmpty (keepLastHyphen (cut (if negated then 2 else 1) body))
    else [body]
  match chunks with
  | ('!' :: chunk) :: more =>
    if chunk.isEmpty && more.isEmpty then .any else .set true (rangesOf (chunk :: more))
  | chunks => .set false (rangesOf chunks)

/-- The length of the set that begins behind a bracket, none if the bracket is not closed.  A closing
bracket right at the start belongs to the set. -/
def setLength? (s : List Char) : Option Nat :=
  let lead := if s.head? = some '!' then 1 else 0
  let lead := if (s.drop lead).head? = some ']' then lead + 1 else lead
  let rest := s.drop lead
  let inner := rest.takeWhile (· ≠ ']')
  if inner.length < rest.length then some (lead + inner.length) else none

/-! ## Patterns -/

/-- The parts of a pattern; the first `skip` characters have been read. -/
def pieces (skip : Nat) : List Char → List Piece
  | [] => []
  | c :: rest =>
    match skip with
    | skip + 1 => pieces skip rest
    | 0 =>
      if c = '*' then .run :: pieces 0 rest
      else if c = '?' then .any :: pieces 0 rest
      else if c = '[' then
        match setLength? rest with
        | some n => setOf (rest.take n) :: pieces (n + 1) rest
        | none => .char c :: pieces 0 rest
      else .char c :: pieces 0 rest

def accepts (parts : List Piece) (s : List Char) : Bool :=
  match parts, s with
  | [], [] => true
  | [], _ :: _ => false
  | .run :: parts, [] => accepts parts []
  | .run :: parts, c :: rest => accepts parts (c :: rest) || accepts (.run :: parts) rest
  | _ :: _, [] => false
  | part :: parts, c :: rest => part.admits c && accepts parts rest
termination_by (parts.length, s.length)

def fits (pattern name : String) : Bool :=
  accepts (pieces 0 pattern.toList) name.toList

end Wildcard

end LozengeNav
