import LozengeNav.Data.Datum
import LozengeNav.Data.Number
import LozengeNav.Text.Digit
import LozengeNav.Uri

/-!
# TOML

Reading of configuration files in the format TOML 1.0.  A file is read row by row into a tree of
nodes, which knows what may still be extended; the tree is shown as plain data afterwards.  Reading
ends at the first thing that is wrong.
-/

namespace LozengeNav

namespace Toml

/-- Why a file cannot be read. -/
inductive Refusal where
  | malformed
  | longInteger (digits : Nat)
  deriving DecidableEq, Repr

abbrev Read (α : Type) :=
  Except Refusal α

/-- What is not there is malformed. -/
def required {α : Type} : Option α → Read α
  | some a => .ok a
  | none => .error .malformed

/-! ## Characters -/

def isBlank (c : Char) : Bool :=
  c == ' ' || c == '\t'

/-- A control character that stands nowhere, tabs left aside. -/
def isControl (c : Char) : Bool :=
  (c.toNat < 0x20 && c != '\t') || c.toNat == 0x7F

def inBareKey (c : Char) : Bool :=
  c.isAlphanum || c == '-' || c == '_'

def skip (s : List Char) : List Char :=
  s.dropWhile isBlank

/-- Drop a comment up to the end of its row, if there is one. -/
def skipComment (s : List Char) : Option (List Char) :=
  match s with
  | '#' :: rest =>
    if (rest.takeWhile (· ≠ '\n')).any isControl then none else some (rest.dropWhile (· ≠ '\n'))
  | _ => some s

def skipRows : Nat → List Char → Option (List Char)
  | 0, s => some s
  | fuel + 1, s => do
    let rest := s.dropWhile fun c => isBlank c || c == '\n'
    match rest with
    | '#' :: _ => skipRows fuel (← skipComment rest)
    | _ => return rest

/-! ## Texts -/

def scalar? (count : Nat) (s : List Char) : Option (Char × List Char) := do
  let digits := s.take count
  let values ← digits.mapM Uri.hexValue?
  let n := values.foldl (fun n d => 16 * n + d) 0
  if digits.length = count && (n < 0xD800 || (0xE000 ≤ n && n ≤ 0x10FFFF)) then
    return (Char.ofNat n, s.drop count)
  else none

/-- The character of an escape, behind the backslash. -/
def escape? : List Char → Option (Char × List Char)
  | 'b' :: rest => some ('\x08', rest)
  | 't' :: rest => some ('\t', rest)
  | 'n' :: rest => some ('\n', rest)
  | 'f' :: rest => some ('\x0C', rest)
  | 'r' :: rest => some ('\r', rest)
  | '"' :: rest => some ('"', rest)
  | '\\' :: rest => some ('\\', rest)
  | 'u' :: rest => scalar? 4 rest
  | 'U' :: rest => scalar? 8 rest
  | _ => none

def basic? : Nat → List Char → Option (List Char × List Char)
  | 0, _ => none
  | _, [] => none
  | fuel + 1, c :: rest => do
    if c = '"' then return ([], rest)
    else if c = '\\' then
      let (d, rest) ← escape? rest
      let (text, rest) ← basic? fuel rest
      return (d :: text, rest)
    else if isControl c then none
    else
      let (text, rest) ← basic? fuel rest
      return (c :: text, rest)

/-- What follows a backslash at the end of a row: the next row, without the blanks in front of it. -/
def joinRows? (s : List Char) : Option (List Char) :=
  match s with
  | c :: _ =>
    if isBlank c || c = '\n' then
      match skip s with
      | '\n' :: rest => some (rest.dropWhile fun c => isBlank c || c == '\n')
      | [] => some []
      | _ => none
    else none
  | [] => none

def basicRows? : Nat → List Char → Option (List Char × List Char)
  | 0, _ => none
  | _, [] => none
  | fuel + 1, c :: rest => do
    if ['"', '"', '"'].isPrefixOf (c :: rest) then return ([], rest.drop 2)
    else if c = '\\' then
      match joinRows? rest with
      | some rest => basicRows? fuel rest
      | none =>
        let (d, rest) ← escape? rest
        let (text, rest) ← basicRows? fuel rest
        return (d :: text, rest)
    else if isControl c && c ≠ '\n' then none
    else
      let (text, rest) ← basicRows? fuel rest
      return (c :: text, rest)

def literal? (s : List Char) : Option (List Char × List Char) :=
  let text := s.takeWhile (· ≠ '\'')
  if text.any isControl then none
  else
    match s.drop text.length with
    | _ :: rest => some (text, rest)
    | [] => none

def literalRows? : List Char → Option (List Char × List Char)
  | [] => none
  | c :: rest => do
    if ['\'', '\'', '\''].isPrefixOf (c :: rest) then return ([], rest.drop 2)
    else if isControl c && c ≠ '\n' then none
    else
      let (text, rest) ← literalRows? rest
      return (c :: text, rest)

/-- Up to two more quotes behind the closing ones belong to a text. -/
def moreQuotes (quote : Char) (text rest : List Char) : List Char × List Char :=
  let quotes := (rest.take 2).takeWhile (· = quote)
  (text ++ quotes, rest.drop quotes.length)

/-- A line end right behind the opening quotes is no part of a text. -/
def dropFirstBreak : List Char → List Char
  | '\n' :: rest => rest
  | s => s

def text? (s : List Char) : Option (List Char × List Char) :=
  match s with
  | '"' :: '"' :: '"' :: rest =>
    (basicRows? (rest.length + 1) (dropFirstBreak rest)).map fun (t, r) => moreQuotes '"' t r
  | '"' :: rest => basic? (rest.length + 1) rest
  | '\'' :: '\'' :: '\'' :: rest =>
    (literalRows? (dropFirstBreak rest)).map fun (t, r) => moreQuotes '\'' t r
  | '\'' :: rest => literal? rest
  | _ => none

/-! ## Numbers -/

/-- Digits with single underscores between them, the first one included; and what follows. -/
def digits (isDigit : Char → Bool) : List Char → List Char × List Char
  | [] => ([], [])
  | [c] => if isDigit c then ([c], []) else ([], [c])
  | c :: d :: rest =>
    if isDigit c then
      if d = '_' && rest.head?.any isDigit then
        let (more, after) := digits isDigit rest
        (c :: more, after)
      else
        let (more, after) := digits isDigit (d :: rest)
        (c :: more, after)
    else ([], c :: d :: rest)

def valueOf (base : Nat) (s : List Char) : Nat :=
  s.foldl (fun n c => base * n + (Uri.hexValue? c).getD 0) 0

/-- An integer in another base than ten, behind the zero. -/
def based? : List Char → Option (Int × List Char)
  | 'x' :: rest => read 16 (fun c => (Uri.hexValue? c).isSome) rest
  | 'b' :: rest => read 2 (fun c => c = '0' || c = '1') rest
  | 'o' :: rest => read 8 (fun c => '0' ≤ c && c < '8') rest
  | _ => none
where
  read (base : Nat) (isDigit : Char → Bool) (s : List Char) : Option (Int × List Char) :=
    let (found, rest) := digits isDigit s
    if found.isEmpty then none else some ((valueOf base found : Int), rest)

def whole? (s : List Char) : Option (List Char × List Char) :=
  match s with
  | '0' :: rest => some (['0'], rest)
  | c :: _ => if c.isDigit then some (digits Char.isDigit s) else none
  | [] => none

def fraction (s : List Char) : List Char × List Char :=
  match s with
  | '.' :: rest =>
    let (found, after) := digits Char.isDigit rest
    if found.isEmpty then ([], s) else (found, after)
  | _ => ([], s)

def sign : List Char → Bool × List Char
  | '-' :: rest => (true, rest)
  | '+' :: rest => (false, rest)
  | s => (false, s)

def exponent? (s : List Char) : Option (Int × List Char) :=
  match s with
  | c :: rest =>
    if c = 'e' || c = 'E' then
      let (negative, rest) := sign rest
      let (found, after) := digits Char.isDigit rest
      let n : Int := valueOf 10 found
      if found.isEmpty then none else some (if negative then -n else n, after)
    else none
  | [] => none

/-- A decimal number: an integer, or a fraction if it has a point or an exponent.  Only integers have
a limit of digits. -/
def decimal (s : List Char) : Read (Datum × List Char) := do
  let (negative, rest) := sign s
  let (whole, rest) ← required (whole? rest)
  let (behind, rest) := fraction rest
  match behind, exponent? rest with
  | [], none =>
    if Text.digitLimit < whole.length then throw (.longInteger whole.length)
    let n : Int := valueOf 10 whole
    return (.int (if negative then -n else n), rest)
  | _, found =>
    let (e, rest) := found.getD (0, rest)
    return (.float (Number.ofDecimal negative (valueOf 10 (whole ++ behind)) (e - behind.length)),
      rest)

def special? (s : List Char) : Option (Datum × List Char) :=
  let (negative, rest) := sign s
  match rest with
  | 'i' :: 'n' :: 'f' :: rest => some (.float (if negative then -(1 / 0) else 1 / 0), rest)
  | 'n' :: 'a' :: 'n' :: rest => some (.float (0 / 0), rest)
  | _ => none

/-! ## Dates and times -/

def number? (count low high : Nat) (s : List Char) : Option (Nat × List Char) :=
  let found := s.take count
  let n := valueOf 10 found
  if found.length = count && found.all Char.isDigit && low ≤ n && n ≤ high then
    some (n, s.drop count)
  else none

def expect (c : Char) : List Char → Option (List Char)
  | d :: rest => if c = d then some rest else none
  | [] => none

def time? (s : List Char) : Option (List Char) := do
  let (_, rest) ← number? 2 0 23 s
  let (_, rest) ← number? 2 0 59 (← expect ':' rest)
  let (_, rest) ← number? 2 0 59 (← expect ':' rest)
  match rest with
  | '.' :: c :: _ => if c.isDigit then return (rest.drop 1).dropWhile Char.isDigit else return rest
  | _ => return rest

/-- The distance to universal time, if there is one; returns what follows. -/
def zone (s : List Char) : List Char :=
  let offset : Option (List Char) := do
    match s with
    | c :: rest =>
      if c = '+' || c = '-' then
        let (_, rest) ← number? 2 0 23 rest
        let (_, rest) ← number? 2 0 59 (← expect ':' rest)
        return rest
      else if c = 'Z' || c = 'z' then return rest
      else none
    | [] => none
  offset.getD s

def daysIn (year month : Nat) : Nat :=
  if month = 2 then
    if year % 4 = 0 && (year % 100 ≠ 0 || year % 400 = 0) then 29 else 28
  else if month = 4 || month = 6 || month = 9 || month = 11 then 30
  else 31

/-- What begins like a date: whether it is one, and what follows it. -/
def date? (s : List Char) : Option (Bool × List Char) := do
  let (year, rest) ← number? 4 0 9999 s
  let (month, rest) ← number? 2 1 12 (← expect '-' rest)
  let (day, rest) ← number? 2 1 31 (← expect '-' rest)
  let after := match rest with
    | c :: more => if c = 'T' || c = 't' || c = ' ' then (time? more).map zone else none
    | [] => none
  return (1 ≤ year && day ≤ daysIn year month, after.getD rest)

def passed (s rest : List Char) : String :=
  String.ofList (s.take (s.length - rest.length))

/-! ## The tree -/

/-- Whether a table may be opened by a header or extended by dotted keys. -/
inductive Lock where
  /-- The table has come about on the way to others. -/
  | loose
  /-- Dotted keys have extended the table in a section. -/
  | dotted (part : Nat)
  /-- A header has opened the table. -/
  | fixed
  deriving DecidableEq, Repr

inductive Node where
  | value (d : Datum)
  | table (lock : Lock) (entries : List (String × Node))
  /-- Tables in a list, the latest first. -/
  | tables (items : List (List (String × Node)))

namespace Lock

/-- Whether a table is closed for headers and dotted keys of a section. -/
def isClosed (part : Nat) : Lock → Bool
  | loose => false
  | dotted s => s ≠ part
  | fixed => true

end Lock

abbrev Entries :=
  List (String × Node)

namespace Entries

def get? (entries : Entries) (key : String) : Option Node :=
  List.lookup key entries

/-- Put a node at a key, at the end if the key is new. -/
def put (key : String) (node : Node) : Entries → Entries
  | [] => [(key, node)]
  | (k, n) :: rest => if k = key then (key, node) :: rest else (k, n) :: put key node rest

def insert (part : Nat) (value : Datum) : List String → Entries → Option Entries
  | [], _ => none
  | [key], entries =>
    if (get? entries key).isSome then none else some (put key (.value value) entries)
  | key :: keys, entries => do
    let inner ← match get? entries key with
      | none => some []
      | some (.table lock inner) => if lock.isClosed part then none else some inner
      | some _ => none
    return put key (.table (.dotted part) (← insert part value keys inner)) entries

def openTable (part : Nat) : List String → Entries → Option Entries
  | [], _ => none
  | [key], entries =>
    match get? entries key with
    | none => some (put key (.table .fixed []) entries)
    | some (.table lock inner) =>
      if lock.isClosed part then none else some (put key (.table .fixed inner) entries)
    | some _ => none
  | key :: keys, entries => do
    match get? entries key with
    | none => return put key (.table .loose (← openTable part keys [])) entries
    | some (.table lock inner) =>
      return put key (.table lock (← openTable part keys inner)) entries
    | some (.tables (item :: items)) =>
      return put key (.tables ((← openTable part keys item) :: items)) entries
    | _ => none

/-- Begin the next table of the list of a header. -/
def appendTable : List String → Entries → Option Entries
  | [], _ => none
  | [key], entries =>
    match get? entries key with
    | none => some (put key (.tables [[]]) entries)
    | some (.tables items) => some (put key (.tables ([] :: items)) entries)
    | some _ => none
  | key :: keys, entries => do
    match get? entries key with
    | none => return put key (.table .loose (← appendTable keys [])) entries
    | some (.table lock inner) => return put key (.table lock (← appendTable keys inner)) entries
    | some (.tables (item :: items)) =>
      return put key (.tables ((← appendTable keys item) :: items)) entries
    | _ => none

/-- Change the table that a header has opened. -/
def within (change : Entries → Option Entries) : List String → Entries → Option Entries
  | [], entries => change entries
  | key :: keys, entries => do
    match get? entries key with
    | some (.table lock inner) => return put key (.table lock (← within change keys inner)) entries
    | some (.tables (item :: items)) =>
      return put key (.tables ((← within change keys item) :: items)) entries
    | _ => none

end Entries

mutual

def Node.datum : Node → Datum
  | .value d => d
  | .table _ entries => .table (Node.entryData entries)
  | .tables items => .list (Node.itemData items).reverse

def Node.entryData : List (String × Node) → List (String × Datum)
  | [] => []
  | (key, node) :: rest => (key, node.datum) :: Node.entryData rest

def Node.itemData : List (List (String × Node)) → List Datum
  | [] => []
  | entries :: rest => .table (Node.entryData entries) :: Node.itemData rest

end

/-! ## Values -/

def keyPart? (s : List Char) : Option (String × List Char) :=
  match s with
  | '"' :: rest => (basic? (rest.length + 1) rest).map fun (t, r) => (String.ofList t, r)
  | '\'' :: rest => (literal? rest).map fun (t, r) => (String.ofList t, r)
  | _ =>
    let bare := s.takeWhile inBareKey
    if bare.isEmpty then none else some (String.ofList bare, s.drop bare.length)

/-- A key of parts with dots between them, and the blanks behind it. -/
def key? : Nat → List Char → Option (List String × List Char)
  | 0, _ => none
  | fuel + 1, s => do
    let (part, rest) ← keyPart? s
    match skip rest with
    | '.' :: rest =>
      let (parts, rest) ← key? fuel (skip rest)
      return (part :: parts, rest)
    | rest => return ([part], rest)

def number (s : List Char) : Read (Datum × List Char) :=
  match decimal s with
  | .error .malformed => required (special? s)
  | result => result

def single (s : List Char) : Read (Datum × List Char) :=
  match s with
  | [] => .error .malformed
  | c :: tail =>
    if c = '"' || c = '\'' then
      required ((text? s).map fun (t, r) => (.text (String.ofList t), r))
    else if ['t', 'r', 'u', 'e'].isPrefixOf s then .ok (.bool true, s.drop 4)
    else if ['f', 'a', 'l', 's', 'e'].isPrefixOf s then .ok (.bool false, s.drop 5)
    else
      match date? s with
      | some (real, rest) =>
        if real then .ok (.moment (passed s rest), rest) else .error .malformed
      | none =>
        match time? s with
        | some rest => .ok (.moment (passed s rest), rest)
        | none =>
          match if c = '0' then based? tail else none with
          | some (n, rest) => .ok (.int n, rest)
          | none => number s

mutual

def value : Nat → List Char → Read (Datum × List Char)
  | 0, _ => .error .malformed
  | fuel + 1, s => do
    match s with
    | '[' :: rest =>
      let (found, rest) ← items fuel (← required (skipRows s.length rest))
      return (.list found, rest)
    | '{' :: rest =>
      match skip rest with
      | '}' :: rest => return (.table [], rest)
      | rest =>
        let (found, rest) ← entries fuel [] rest
        return (.table (Node.entryData found), rest)
    | _ => single s

def items : Nat → List Char → Read (List Datum × List Char)
  | 0, _ => .error .malformed
  | fuel + 1, s => do
    match s with
    | ']' :: rest => return ([], rest)
    | _ =>
      let (item, rest) ← value fuel s
      match ← required (skipRows s.length rest) with
      | ']' :: rest => return ([item], rest)
      | ',' :: rest =>
        let (others, rest) ← items fuel (← required (skipRows s.length rest))
        return (item :: others, rest)
      | _ => throw .malformed

def entries : Nat → Entries → List Char → Read (Entries × List Char)
  | 0, _, _ => .error .malformed
  | fuel + 1, known, s => do
    let (key, rest) ← required (key? s.length s)
    let (d, rest) ← value fuel (skip (← required (expect '=' rest)))
    let known ← required (known.insert 0 d key)
    match skip rest with
    | '}' :: rest => return (known, rest)
    | ',' :: rest => entries fuel known (skip rest)
    | _ => throw .malformed

end

/-! ## Files -/

/-- What has been read of a file: the tree, the keys of the last header, and the number of
headers. -/
structure Reader where
  entries : Entries
  header : List String
  part : Nat

namespace Reader

def initial : Reader :=
  ⟨[], [], 0⟩

/-- Read a header, behind its first bracket. -/
def header? (r : Reader) (s : List Char) : Option (Reader × List Char) := do
  let next := r.part + 1
  match s with
  | '[' :: rest =>
    let (key, rest) ← key? s.length (skip rest)
    let entries ← Entries.appendTable key r.entries
    return (⟨entries, key, next⟩, ← expect ']' (← expect ']' rest))
  | _ =>
    let (key, rest) ← key? (s.length + 1) (skip s)
    let entries ← Entries.openTable next key r.entries
    return (⟨entries, key, next⟩, ← expect ']' rest)

def entry (r : Reader) (s : List Char) : Read (Reader × List Char) := do
  let (key, rest) ← required (key? s.length s)
  let (d, rest) ← value (2 * s.length) (skip (← required (expect '=' rest)))
  let known ← required (Entries.within (Entries.insert r.part d key) r.header r.entries)
  return ({ r with entries := known }, rest)

def rows : Nat → Reader → List Char → Read Reader
  | 0, _, _ => .error .malformed
  | fuel + 1, r, s => do
    let s := skip s
    let (r, rest) ← match s with
      | [] => .ok (r, [])
      | '\n' :: _ => .ok (r, s)
      | '#' :: _ => .ok (r, s)
      | '[' :: rest => required (r.header? rest)
      | _ => r.entry s
    match ← required (skipComment (skip rest)) with
    | [] => return r
    | '\n' :: rest => rows fuel r rest
    | _ => throw .malformed

end Reader

def unifyBreaks : List Char → List Char
  | [] => []
  | '\r' :: '\n' :: rest => '\n' :: unifyBreaks rest
  | c :: rest => c :: unifyBreaks rest

/-- The table that a file holds. -/
def read (text : List Char) : Read Datum :=
  let s := unifyBreaks text
  (Reader.initial.rows (s.length + 1) s).map fun r => .table (Node.entryData r.entries)

end Toml

end LozengeNav
