import LozengeNav.Text.Blank
import LozengeNav.Text.Identifier

/-!
# References

A dialect document refers to a file or a function by the marker `◊` and a name, in one of three
forms: `◊(foo.bar)`, `◊foo:` and `◊foo`.  `Reference.scan` lists the references of one form on a
line from left to right, and `Reference.at?` picks the one under a cursor.  A span holds the cursor
at both of its ends, so that a cursor right after the last character still selects the reference.
-/

namespace LozengeNav

/-- The surface forms of a reference, in order of priority. -/
inductive Form where
  | parenthesized
  | colon
  | bare
  deriving DecidableEq, Repr, Inhabited

namespace Form

/-- All forms in order of priority. -/
def all : List Form :=
  [parenthesized, colon, bare]

def name : Form → String
  | parenthesized => "parenthesized"
  | colon => "colon"
  | bare => "bare"

def ofName? (s : String) : Option Form :=
  all.find? fun f => f.name == s

end Form

structure Reference where
  name : List Char
  start : Nat
  stop : Nat
  form : Form
  deriving DecidableEq, Repr, Inhabited

namespace Reference

def marker : Char :=
  '◊'

def holds (r : Reference) (column : Int) : Bool :=
  (r.start : Int) ≤ column && column ≤ (r.stop : Int)

def isDotted (r : Reference) : Bool :=
  r.name.contains '.'

/-- A character that may continue a name outside parentheses. -/
def isNameTail (c : Char) : Bool :=
  Text.isWord c || c == '-'

/-- The rest of a dotted name, dots included, and what follows it. -/
def takeSegments (s : List Char) : List Char × List Char :=
  match s with
  | '.' :: rest =>
    match h : Text.takeName? Text.isWord rest with
    | some (segment, after) =>
      have : after.length < rest.length := Text.takeName?_length h
      let (more, final) := takeSegments after
      ('.' :: segment ++ more, final)
    | none => ([], s)
  | _ => ([], s)
termination_by s.length
decreasing_by simp only [List.length_cons]; omega

/-- A dotted name and the closing parenthesis, behind an opening one. -/
def takeParenthesized? (s : List Char) : Option (List Char × List Char) := do
  let (head, rest) ← Text.takeName? Text.isWord s
  match takeSegments rest with
  | (more, ')' :: after) => some (head ++ more, after)
  | _ => none

def colonFollows (s : List Char) : Bool :=
  (Text.trimLeft s).head? == some ':'

/-- The name behind a marker and the number of characters it takes there. -/
def read? (form : Form) (s : List Char) : Option (List Char × Nat) :=
  match form with
  | .parenthesized =>
    match s with
    | '(' :: rest => (takeParenthesized? rest).map fun (name, _) => (name, name.length + 2)
    | _ => none
  | .colon =>
    match Text.takeName? isNameTail s with
    | some (name, rest) => if colonFollows rest then some (name, name.length) else none
    | none => none
  | .bare => (Text.takeName? isNameTail s).map fun (name, _) => (name, name.length)

/-- The references of one form on the rest of a line that begins at `column`.  The first `skip`
characters belong to a reference already read. -/
def scanFrom (form : Form) (skip column : Nat) : List Char → List Reference
  | [] => []
  | c :: rest =>
    match skip with
    | skip + 1 => scanFrom form skip (column + 1) rest
    | 0 =>
      if c = marker then
        match read? form rest with
        | some (name, width) =>
          ⟨name, column, column + 1 + width, form⟩ :: scanFrom form width (column + 1) rest
        | none => scanFrom form 0 (column + 1) rest
      else scanFrom form 0 (column + 1) rest

/-- The references of one form on a line, from left to right. -/
def scan (form : Form) (line : List Char) : List Reference :=
  scanFrom form 0 0 line

/-- The reference under a cursor: the first in order of priority, then from left to right. -/
def at? (line : List Char) (column : Int) : Option Reference :=
  (Form.all.flatMap fun form => scan form line).find? fun r => r.holds column

end Reference

end LozengeNav
