import LozengeNav.Text.Compatibility.Data

/-!
# Compatibility forms

The form in which names of a Python source are compared (Unicode form NFKC).  Every character is
taken apart into those that it stands for, marks that combine with a character are put in the order
of their classes, and what belongs together is put together again.
-/

namespace LozengeNav

namespace Text

namespace Compatibility

/-! ## Tables -/

/-- The number that hexadecimal digits stand for; what is no digit counts as zero. -/
def hex (s : String) : Nat :=
  s.toList.foldl (fun n c => 16 * n + (if c.isDigit then c.toNat - 48 else c.toNat - 55)) 0

/-- What a table says about some characters on end. -/
structure Row where
  key : List Nat
  count : Nat
  value : List Nat
  deriving DecidableEq, Repr

namespace Row

def ofWord? (word : String) : Option Row :=
  match word.splitOn ">" with
  | [key, value] =>
    let numbers (s : String) : List Nat := (s.splitOn ".").map hex
    match key.splitOn "+" with
    | [first, count] => some ⟨numbers first, hex count, numbers value⟩
    | _ => some ⟨numbers key, 1, numbers value⟩
  | _ => none

def table (data : String) : List Row :=
  ((data.replace "\n" " ").splitOn " ").filterMap ofWord?

/-- How far behind the first character of a row another one stands, if the row is about it. -/
def offset? (r : Row) (n : Nat) : Option Nat :=
  match r.key with
  | [first] => if first ≤ n ∧ n < first + r.count then some (n - first) else none
  | _ => none

end Row

def partsTable : List Row :=
  Row.table partsData

def classesTable : List Row :=
  Row.table classesData

def composedTable : List Row :=
  Row.table composedData

/-! ## Syllables of Hangul -/

def syllableBase : Nat := 0xAC00

def leadBase : Nat := 0x1100

def vowelBase : Nat := 0x1161

/-- The number before the first trailing consonant. -/
def trailBase : Nat := 0x11A7

def leads : Nat := 19

def vowels : Nat := 21

/-- How many trailing consonants there are, where none counts as one. -/
def trails : Nat := 28

def syllableParts? (n : Nat) : Option (List Nat) :=
  let i := n - syllableBase
  if n < syllableBase ∨ leads * vowels * trails ≤ i then none
  else
    let pair := [leadBase + i / (vowels * trails), vowelBase + i % (vowels * trails) / trails]
    some (if i % trails = 0 then pair else pair ++ [trailBase + i % trails])

/-- The syllable that a consonant and a vowel, or a syllable and a consonant behind it, make up. -/
def syllable? (a b : Nat) : Option Nat :=
  if leadBase ≤ a ∧ a < leadBase + leads ∧ vowelBase ≤ b ∧ b < vowelBase + vowels then
    some (syllableBase + ((a - leadBase) * vowels + (b - vowelBase)) * trails)
  else if syllableBase ≤ a ∧ a < syllableBase + leads * vowels * trails
      ∧ (a - syllableBase) % trails = 0 ∧ trailBase < b ∧ b < trailBase + trails then
    some (a + (b - trailBase))
  else none

/-! ## Characters -/

def parts (n : Nat) : List Nat :=
  (syllableParts? n).getD <|
    (partsTable.findSome? fun r => do
      let i ← r.offset? n
      return r.value.dropLast ++ [r.value.getLastD n + i]).getD [n]

/-- The combining class of a character: zero, unless it is a mark that may change places. -/
def classOf (n : Nat) : Nat :=
  (classesTable.findSome? fun r => (r.offset? n).map fun _ => r.value.headD 0).getD 0

/-- The character that two characters make up. -/
def composed? (a b : Nat) : Option Nat :=
  (syllable? a b).or ((composedTable.find? fun r => r.key = [a, b]).map fun r => r.value.headD a)

/-! ## Order and composition -/

/-- Put a character in front of others; a mark goes behind the marks of lower classes. -/
def place (n : Nat) : List Nat → List Nat
  | [] => [n]
  | m :: rest =>
    if 0 < classOf m ∧ classOf m < classOf n then m :: place n rest else n :: m :: rest

/-- Whether a character may combine with the one before the marks, the last of which is first.  A
mark of no lower class stands in the way. -/
def isFree (marks : List Nat) (n : Nat) : Bool :=
  match marks with
  | [] => true
  | last :: _ => classOf last < classOf n

/-- Put together what belongs together, behind a character and the marks that it did not combine
with, the last of which is first. -/
def composeAfter (start : Nat) (marks : List Nat) : List Nat → List Nat
  | [] => start :: marks.reverse
  | n :: rest =>
    match if isFree marks n then composed? start n else none with
    | some both => composeAfter both marks rest
    | none =>
      if classOf n = 0 then start :: marks.reverse ++ composeAfter n [] rest
      else composeAfter start (n :: marks) rest

/-- Put together what belongs together. -/
def compose : List Nat → List Nat
  | [] => []
  | n :: rest => if classOf n = 0 then composeAfter n [] rest else n :: compose rest

end Compatibility

/-- The compatibility form of a name.  A name of ASCII characters is its own. -/
def compatible (s : String) : String :=
  if s.toList.all fun c => c.toNat < 0x80 then s
  else
    let apart := s.toList.flatMap fun c => Compatibility.parts c.toNat
    String.ofList ((Compatibility.compose (apart.foldr Compatibility.place [])).map Char.ofNat)

end Text

end LozengeNav
