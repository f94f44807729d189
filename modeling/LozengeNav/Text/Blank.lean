/-!
# Blank characters

The set of characters that separate words, and trimming of lines by it.  The set is the Unicode
property `White_Space` together with the four information separators.
-/

namespace LozengeNav

namespace Text

def isBlank (c : Char) : Bool :=
  let n := c.toNat
  (0x09 ≤ n && n ≤ 0x0D) || (0x1C ≤ n && n ≤ 0x20) || n == 0x85 || n == 0xA0 || n == 0x1680 ||
    (0x2000 ≤ n && n ≤ 0x200A) || n == 0x2028 || n == 0x2029 || n == 0x202F || n == 0x205F ||
    n == 0x3000

/-- A character with the Unicode property `White_Space`, which the information separators lack. -/
def isWhiteSpace (c : Char) : Bool :=
  isBlank c && !(0x1C ≤ c.toNat && c.toNat ≤ 0x1F)

def trimLeft (s : List Char) : List Char :=
  s.dropWhile isBlank

/-- Drop trailing characters that satisfy `p`. -/
def dropRightWhile (p : Char → Bool) (s : List Char) : List Char :=
  (s.reverse.dropWhile p).reverse

def trimRight (s : List Char) : List Char :=
  dropRightWhile isBlank s

/-- Drop blanks on both sides. -/
def trim (s : List Char) : List Char :=
  trimRight (trimLeft s)

/-- Whether a text has no character other than blanks. -/
def allBlank (s : List Char) : Bool :=
  s.all isBlank

def squeeze (s : List Char) : List Char :=
  s.filter fun c => !isBlank c

end Text

end LozengeNav
