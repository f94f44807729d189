/-!
# UTF-8

A text as bytes and bytes as a text.  `scan` reads bytes one at a time; every longest ill-formed
piece that still begins a character, and every byte that begins none, is read as one gap.  A strict
reader refuses gaps, a lenient one shows each as U+FFFD.
-/

namespace LozengeNav

namespace Text

namespace Utf8

def encodeChar (c : Char) : List UInt8 :=
  let n := c.toNat
  if n < 0x80 then [UInt8.ofNat n]
  else if n < 0x800 then [UInt8.ofNat (0xC0 + n / 0x40), UInt8.ofNat (0x80 + n % 0x40)]
  else if n < 0x10000 then
    [UInt8.ofNat (0xE0 + n / 0x1000), UInt8.ofNat (0x80 + n / 0x40 % 0x40),
      UInt8.ofNat (0x80 + n % 0x40)]
  else
    [UInt8.ofNat (0xF0 + n / 0x40000), UInt8.ofNat (0x80 + n / 0x1000 % 0x40),
      UInt8.ofNat (0x80 + n / 0x40 % 0x40), UInt8.ofNat (0x80 + n % 0x40)]

def encode (s : List Char) : List UInt8 :=
  s.flatMap encodeChar

/-- A character of which some bytes are still owed: how many, the bounds of the next one, and the
value read so far. -/
structure Pending where
  owed : Nat
  low : Nat
  high : Nat
  value : Nat
  deriving DecidableEq, Repr

/-- What a byte begins. -/
inductive Start where
  | char (c : Char)
  | pending (p : Pending)
  | gap
  deriving DecidableEq, Repr

/-- Read a byte where a character may begin. -/
def start (b : Nat) : Start :=
  if b < 0x80 then .char (Char.ofNat b)
  else if 0xC2 ≤ b && b ≤ 0xDF then .pending ⟨1, 0x80, 0xBF, b - 0xC0⟩
  else if b = 0xE0 then .pending ⟨2, 0xA0, 0xBF, 0⟩
  else if b = 0xED then .pending ⟨2, 0x80, 0x9F, b - 0xE0⟩
  else if 0xE1 ≤ b && b ≤ 0xEF then .pending ⟨2, 0x80, 0xBF, b - 0xE0⟩
  else if b = 0xF0 then .pending ⟨3, 0x90, 0xBF, 0⟩
  else if b = 0xF4 then .pending ⟨3, 0x80, 0x8F, b - 0xF0⟩
  else if 0xF1 ≤ b && b ≤ 0xF3 then .pending ⟨3, 0x80, 0xBF, b - 0xF0⟩
  else .gap

/-- Read bytes, a character partly read before them.  A gap is `none`. -/
def scanFrom : Option Pending → List UInt8 → List (Option Char)
  | none, [] => []
  | some _, [] => [none]
  | none, b :: rest =>
    match start b.toNat with
    | .char c => some c :: scanFrom none rest
    | .pending p => scanFrom (some p) rest
    | .gap => none :: scanFrom none rest
  | some p, b :: rest =>
    if p.low ≤ b.toNat && b.toNat ≤ p.high then
      let value := p.value * 0x40 + (b.toNat - 0x80)
      if p.owed ≤ 1 then some (Char.ofNat value) :: scanFrom none rest
      else scanFrom (some ⟨p.owed - 1, 0x80, 0xBF, value⟩) rest
    else
      none ::
        match start b.toNat with
        | .char c => some c :: scanFrom none rest
        | .pending q => scanFrom (some q) rest
        | .gap => none :: scanFrom none rest

def scan (bytes : List UInt8) : List (Option Char) :=
  scanFrom none bytes

def decode? (bytes : List UInt8) : Option (List Char) :=
  (scan bytes).mapM id

/-- The text of any bytes, each gap shown as U+FFFD. -/
def decodeLossy (bytes : List UInt8) : List Char :=
  (scan bytes).map fun c => c.getD '\uFFFD'

end Utf8

end Text

end LozengeNav
