/-!
# Numerals

The numbers of Python sources: integers in four bases, decimal fractions, exponents and imaginary
numbers, with single underscores between digits.  Each reader returns what follows the part that it
reads.
-/

namespace LozengeNav

namespace Grammar

namespace Numeral

/-- Whether a word that may follow a number without a blank begins here. -/
def connects (s : List Char) : Bool :=
  ["and", "else", "for", "if", "in", "is", "or", "not"].any fun w => w.toList.isPrefixOf s

/-- A character that words are made of; each character beyond ASCII counts. -/
def inWord (c : Char) : Bool :=
  c.isAlphanum || c == '_' || 0x80 ≤ c.toNat

/-- A number may end where no word goes on, or where a connecting word begins. -/
def canEnd (s : List Char) : Bool :=
  connects s || !(s.head?.any inWord)

/-- What follows a number that may end here. -/
def ended (s : List Char) : Option (List Char) :=
  if canEnd s then some s else none

/-- Digits behind a first one: an underscore has to stand between two digits. -/
def digits (isDigit : Char → Bool) : List Char → Option (List Char)
  | [] => some []
  | [c] => if c = '_' then none else if isDigit c then some [] else some [c]
  | c :: d :: rest =>
    if c = '_' then (if isDigit d then digits isDigit rest else none)
    else if isDigit c then digits isDigit (d :: rest)
    else some (c :: d :: rest)

def isHexDigit (c : Char) : Bool :=
  c.isDigit || ('a' ≤ c && c ≤ 'f') || ('A' ≤ c && c ≤ 'F')

/-- An integer in a base other than ten, behind the letter of the base. -/
def based (isDigit : Char → Bool) (s : List Char) : Option (List Char) :=
  let s := match s with
    | '_' :: rest => rest
    | _ => s
  match s with
  | c :: rest => if isDigit c then (digits isDigit rest).bind ended else none
  | [] => none

/-- The end of a number that an imaginary unit may follow. -/
def unit (s : List Char) : Option (List Char) :=
  match s with
  | 'j' :: rest => ended rest
  | 'J' :: rest => ended rest
  | _ => ended s

/-- An exponent, if there is one, and the end of the number. -/
def exponent (s : List Char) : Option (List Char) :=
  match s with
  | e :: rest =>
    if e = 'e' || e = 'E' then
      match rest with
      | c :: d :: more =>
        if c = '+' || c = '-' then
          if d.isDigit then (digits Char.isDigit more).bind unit else none
        else if c.isDigit then (digits Char.isDigit (d :: more)).bind unit
        else ended s
      | [c] => if c.isDigit then some [] else if c = '+' || c = '-' then none else ended s
      | [] => ended s
    else unit s
  | [] => unit s

def fraction (s : List Char) : Option (List Char) :=
  match s with
  | c :: rest => if c.isDigit then (digits Char.isDigit rest).bind exponent else exponent s
  | [] => exponent s

/-- More zeros behind a first one; other digits stay. -/
def moreZeros : List Char → Option (List Char)
  | [] => some []
  | [c] => if c = '_' then none else if c = '0' then some [] else some [c]
  | c :: d :: rest =>
    if c = '_' then
      if d = '0' then moreZeros rest else if d.isDigit then some (d :: rest) else none
    else if c = '0' then moreZeros (d :: rest)
    else some (c :: d :: rest)

/-- A number that begins with zeros: no other integer than zero may. -/
def zeros (s : List Char) : Option (List Char) := do
  let rest ← moreZeros s
  match rest with
  | c :: more =>
    if c.isDigit then
      let rest ← digits Char.isDigit more
      match rest with
      | '.' :: more => fraction more
      | d :: _ =>
        if d = 'e' || d = 'E' || d = 'j' || d = 'J' then exponent rest else none
      | [] => none
    else if c = '.' then fraction more
    else exponent rest
  | [] => some []

def digitLimit : Nat :=
  4300

/-- An integer or decimal number behind its first digit, which is not zero. -/
def decimal (s : List Char) : Option (List Char) := do
  let rest ← digits Char.isDigit s
  match rest with
  | '.' :: more => fraction more
  | _ =>
    let after ← exponent rest
    let long := (s.take (s.length - rest.length)).countP Char.isDigit ≥ digitLimit
    if long && after.length = rest.length then none else some after

/-- What follows the number that begins with a digit. -/
def rest? : List Char → Option (List Char)
  | '0' :: c :: rest =>
    if c = 'x' || c = 'X' then based isHexDigit rest
    else if c = 'o' || c = 'O' then based (fun d => '0' ≤ d && d < '8') rest
    else if c = 'b' || c = 'B' then based (fun d => d = '0' || d = '1') rest
    else zeros (c :: rest)
  | c :: rest => if c.isDigit then decimal rest else none
  | [] => none

def isImaginary (s : List Char) : Bool :=
  s.getLast?.any fun c => c == 'j' || c == 'J'

end Numeral

end Grammar

end LozengeNav
