import LozengeNav.Data.Datum
import LozengeNav.Data.Number
import LozengeNav.Text.Quoted
import LozengeNav.Uri

/-!
# JSON

Messages as text: reading and writing of data as JSON.  The writer keeps to ASCII and sorts the keys
of tables.
-/

namespace LozengeNav

namespace Json

def skip (s : List Char) : List Char :=
  s.dropWhile fun c => c == ' ' || c == '\t' || c == '\n' || c == '\r'

def unit? : List Char → Option (Nat × List Char)
  | a :: b :: c :: d :: rest => do
    let a ← Uri.hexValue? a
    let b ← Uri.hexValue? b
    let c ← Uri.hexValue? c
    let d ← Uri.hexValue? d
    some (a * 4096 + b * 256 + c * 16 + d, rest)
  | _ => none

def simpleEscape? : Char → Option Char
  | '"' => some '"'
  | '\\' => some '\\'
  | '/' => some '/'
  | 'b' => some '\x08'
  | 'f' => some '\x0C'
  | 'n' => some '\n'
  | 'r' => some '\r'
  | 't' => some '\t'
  | _ => none

/-- The rest of a text behind its opening quote.  Two escaped halves of a pair stand for one
character. -/
def text? : Nat → List Char → List Char → Option (String × List Char)
  | 0, _, _ => none
  | _ + 1, _, [] => none
  | fuel + 1, read, c :: rest =>
    if c = '"' then some (String.ofList read.reverse, rest)
    else if c = '\\' then
      match rest with
      | 'u' :: digits => do
        let (high, after) ← unit? digits
        match after with
        | '\\' :: 'u' :: more =>
          match unit? more with
          | some (low, final) =>
            if 0xD800 ≤ high && high < 0xDC00 && 0xDC00 ≤ low && low < 0xE000 then
              text? fuel
                (Char.ofNat (0x10000 + (high - 0xD800) * 0x400 + (low - 0xDC00)) :: read) final
            else text? fuel (Char.ofNat high :: read) after
          | none => none
        | _ => text? fuel (Char.ofNat high :: read) after
      | e :: more => do text? fuel ((← simpleEscape? e) :: read) more
      | [] => none
    else text? fuel (c :: read) rest

/-- A number: an integer, or a fraction if it has a point or an exponent. -/
def number? (s : List Char) : Option (Datum × List Char) :=
  let (negative, s) := match s with
    | '-' :: rest => (true, rest)
    | rest => (false, rest)
  let whole := s.takeWhile Char.isDigit
  let s := s.drop whole.length
  let (fraction, s) := match s with
    | '.' :: rest => (rest.takeWhile Char.isDigit, rest.dropWhile Char.isDigit)
    | rest => ([], rest)
  let exponent? (s : List Char) : Option (Int × List Char) :=
    let (sign, s) := match s with
      | '-' :: rest => ((-1 : Int), rest)
      | '+' :: rest => (1, rest)
      | rest => (1, rest)
    let digits := s.takeWhile Char.isDigit
    (String.ofList digits).toNat?.map fun n => (sign * n, s.drop digits.length)
  let power := match s with
    | 'e' :: rest => exponent? rest
    | 'E' :: rest => exponent? rest
    | _ => none
  match (String.ofList (whole ++ fraction)).toNat?, fraction, power with
  | none, _, _ => none
  | some n, [], none => some (.int (if negative then -(n : Int) else n), s)
  | some n, _, none => some (.float (Number.ofDecimal negative n (-(fraction.length : Int))), s)
  | some n, _, some (e, rest) =>
    some (.float (Number.ofDecimal negative n (e - fraction.length)), rest)

mutual

def value? : Nat → List Char → Option (Datum × List Char)
  | 0, _ => none
  | fuel + 1, s =>
    match skip s with
    | '"' :: rest => (text? (rest.length + 1) [] rest).map fun (t, rest) => (.text t, rest)
    | '[' :: rest =>
      match skip rest with
      | ']' :: rest => some (.list [], rest)
      | rest => (items? fuel rest).map fun (items, rest) => (.list items, rest)
    | '\x7b' :: rest =>
      match skip rest with
      | '\x7d' :: rest => some (.table [], rest)
      | rest => (entries? fuel rest).map fun (entries, rest) => (.table entries, rest)
    | 't' :: 'r' :: 'u' :: 'e' :: rest => some (.bool true, rest)
    | 'f' :: 'a' :: 'l' :: 's' :: 'e' :: rest => some (.bool false, rest)
    | 'n' :: 'u' :: 'l' :: 'l' :: rest => some (.null, rest)
    | rest => number? rest

def items? : Nat → List Char → Option (List Datum × List Char)
  | 0, _ => none
  | fuel + 1, s => do
    let (item, rest) ← value? fuel s
    match skip rest with
    | ',' :: rest =>
      let (more, rest) ← items? fuel rest
      some (item :: more, rest)
    | ']' :: rest => some ([item], rest)
    | _ => none

def entries? : Nat → List Char → Option (List (String × Datum) × List Char)
  | 0, _ => none
  | fuel + 1, s => do
    match skip s with
    | '"' :: rest =>
      let (key, rest) ← text? (rest.length + 1) [] rest
      match skip rest with
      | ':' :: rest =>
        let (item, rest) ← value? fuel rest
        match skip rest with
        | ',' :: rest =>
          let (more, rest) ← entries? fuel rest
          some ((key, item) :: more, rest)
        | '\x7d' :: rest => some ([(key, item)], rest)
        | _ => none
      | _ => none
    | _ => none

end

/-- Keep the last of several entries with one key, at the place of the first. -/
def settle : List (String × Datum) → List (String × Datum)
  | [] => []
  | (key, item) :: rest =>
    let last := ((rest.reverse.find? fun e => e.1 == key).map Prod.snd).getD item
    (key, last) :: (settle rest).filter fun e => e.1 != key

def read? (s : String) : Option Datum :=
  match value? (2 * s.length + 2) s.toList with
  | some (d, rest) => if (skip rest).isEmpty then some d else none
  | none => none

/-- One half of a pair, or a character of one unit, in hexadecimal. -/
def writeUnit (n : Nat) : List Char :=
  '\\' :: 'u' :: Text.hexDigits 4 n

def writeChar (c : Char) : List Char :=
  if c = '"' || c = '\\' then ['\\', c]
  else if c = '\n' then ['\\', 'n']
  else if c = '\r' then ['\\', 'r']
  else if c = '\t' then ['\\', 't']
  else if 0x20 ≤ c.toNat && c.toNat < 0x7F then [c]
  else if c.toNat < 0x10000 then writeUnit c.toNat
  else
    let n := c.toNat - 0x10000
    writeUnit (0xD800 + n / 0x400) ++ writeUnit (0xDC00 + n % 0x400)

def writeText (s : String) : String :=
  String.ofList ('"' :: s.toList.flatMap writeChar ++ ['"'])

mutual

def write : Datum → String
  | .null => "null"
  | .bool true => "true"
  | .bool false => "false"
  | .int n => toString n
  | .float x => Number.write x
  | .text s => writeText s
  | .moment s => writeText s
  | .list items => "[" ++ ", ".intercalate (writeItems items) ++ "]"
  | .table entries =>
    "\x7b" ++ ", ".intercalate
      (((writeEntries entries).mergeSort fun a b => a.1 ≤ b.1).map Prod.snd) ++ "\x7d"

def writeItems : List Datum → List String
  | [] => []
  | item :: rest => write item :: writeItems rest

def writeEntries : List (String × Datum) → List (String × String)
  | [] => []
  | (key, item) :: rest => (key, writeText key ++ ": " ++ write item) :: writeEntries rest

end

end Json

end LozengeNav
