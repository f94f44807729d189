/-!
# Units

How the two ends of a session count the columns of a line: in units of an encoding, of which a
character takes one or more.  Every character of the basic plane counts as one unit, whatever the
encoding; only the characters above it tell encodings apart.
-/

namespace LozengeNav

namespace Text

inductive Encoding where
  | utf8
  | utf16
  | utf32
  deriving DecidableEq, Repr, Inhabited

namespace Encoding

def name : Encoding → String
  | utf8 => "utf-8"
  | utf16 => "utf-16"
  | utf32 => "utf-32"

/-- The encoding of a name; every other name stands for UTF-16. -/
def ofName (s : String) : Encoding :=
  if s = utf8.name then utf8 else if s = utf32.name then utf32 else utf16

/-- The units of a character above the basic plane, when a text is measured. -/
def measure : Encoding → Nat
  | utf8 => 3
  | utf16 => 2
  | utf32 => 1

/-- The units of a character above the basic plane, when a column is sought. -/
def stride : Encoding → Nat
  | utf8 => 6
  | utf16 => 2
  | utf32 => 3

end Encoding

def isAstral (c : Char) : Bool :=
  0xFFFF < c.toNat

def units (e : Encoding) (s : List Char) : Nat :=
  (s.map fun c => if isAstral c then e.measure else 1).foldr (· + ·) 0

/-- The number of characters that reach up to some number of units. -/
def charsWithin (e : Encoding) : Nat → List Char → Nat
  | _, [] => 0
  | 0, _ => 0
  | n + 1, c :: rest => charsWithin e (n + 1 - if isAstral c then e.stride else 1) rest + 1

end Text

end LozengeNav
