import LozengeNav.Text.Blank
import LozengeNav.Text.Identifier

/-!
# Dotted expressions

The chains of identifiers on a line of Python, such as `pkg.mod . Base`, and the part of a chain
that ends at the identifier under a cursor.
-/

namespace LozengeNav

structure Word where
  text : List Char
  start : Nat
  deriving DecidableEq, Repr, Inhabited

namespace Word

def stop (w : Word) : Nat :=
  w.start + w.text.length

/-- Whether a cursor touches the identifier, both ends included. -/
def holds (w : Word) (column : Int) : Bool :=
  (w.start : Int) ≤ column && column ≤ (w.stop : Int)

/-- The identifiers on the rest of a line that begins at column `column`; the first `skip`
characters belong to one already read. -/
def scanFrom (skip column : Nat) : List Char → List Word
  | [] => []
  | c :: rest =>
    match skip with
    | skip + 1 => scanFrom skip (column + 1) rest
    | 0 =>
      if Text.isHead c then
        let tail := rest.takeWhile Text.isWord
        ⟨c :: tail, column⟩ :: scanFrom tail.length (column + 1) rest
      else scanFrom 0 (column + 1) rest

def scan (line : List Char) : List Word :=
  scanFrom 0 0 line

def at? (line : List Char) (column : Int) : Option Word :=
  (scan line).find? fun w => w.holds column

end Word

/-- A chain of identifiers joined by dots.  It is never empty: the first identifier stands apart. -/
structure Chain where
  head : Word
  more : List Word
  deriving DecidableEq, Repr, Inhabited

namespace Chain

/-- The identifiers of a chain in order. -/
def words (c : Chain) : List Word :=
  c.head :: c.more

def last (c : Chain) : Word :=
  c.more.getLastD c.head

/-- Whether a cursor touches the chain, both ends included. -/
def holds (c : Chain) (column : Int) : Bool :=
  (c.head.start : Int) ≤ column && column ≤ (c.last.stop : Int)

def spell (words : List Word) : List Char :=
  ['.'].intercalate (words.map Word.text)

/-- The links of a chain behind one of its identifiers: each is a dot and an identifier, and blanks
may stand around the dot.  Column `column` is where `s` begins. -/
def links (column : Nat) (s : List Char) : List Word :=
  let gap := s.takeWhile Text.isBlank
  match hs : s.dropWhile Text.isBlank with
  | '.' :: rest =>
    let space := rest.takeWhile Text.isBlank
    match h : Text.takeName? Text.isWord (rest.dropWhile Text.isBlank) with
    | some (name, after) =>
      have : after.length < s.length := by
        have h1 := Text.takeName?_length h
        have h2 : (rest.dropWhile Text.isBlank).length ≤ rest.length := 
          (List.dropWhile_suffix _).sublist.length_le
        have h3 : (s.dropWhile Text.isBlank).length ≤ s.length := 
          (List.dropWhile_suffix _).sublist.length_le
        rw [hs, List.length_cons] at h3
        omega
      let start := column + gap.length + 1 + space.length
      ⟨name, start⟩ :: links (start + name.length) after
    | none => []
  | _ => []
termination_by s.length

/-- The chains on the rest of a line that begins at column `column`; the first `skip` characters
belong to one already read. -/
def scanFrom (skip column : Nat) : List Char → List Chain
  | [] => []
  | c :: rest =>
    match skip with
    | skip + 1 => scanFrom skip (column + 1) rest
    | 0 =>
      if Text.isHead c then
        let tail := rest.takeWhile Text.isWord
        let head : Word := ⟨c :: tail, column⟩
        let chain : Chain := ⟨head, links head.stop (rest.dropWhile Text.isWord)⟩
        chain :: scanFrom (chain.last.stop - (column + 1)) (column + 1) rest
      else scanFrom 0 (column + 1) rest

/-- The chains of a line, from left to right. -/
def scan (line : List Char) : List Chain :=
  scanFrom 0 0 line

/-- The identifiers of a chain up to the one under a cursor. -/
def upTo? (column : Int) : List Word → Option (List Word)
  | [] => none
  | w :: ws => if w.holds column then some [w] else (upTo? column ws).map (w :: ·)

/-- The first chain under a cursor that has an identifier under it, cut behind that identifier. -/
def at? (line : List Char) (column : Int) : Option (List Word) :=
  (scan line).findSome? fun c => if c.holds column then upTo? column c.words else none

end Chain

/-- The dotted expression that ends at the identifier under a cursor, without blanks. -/
def expressionAt? (line : List Char) (column : Int) : Option String :=
  (Chain.at? line column).map fun words => String.ofList (Chain.spell words)

end LozengeNav
