/-!
# Data

A value of a data format: what a configuration file holds and what a message carries.  Tables keep
the order in which their keys were written.
-/

namespace LozengeNav

inductive Datum where
  | null
  | bool (b : Bool)
  | int (n : Int)
  | float (x : Float)
  | text (s : String)
  /-- A date, a time of day or both, as written. -/
  | moment (s : String)
  | list (items : List Datum)
  | table (entries : List (String × Datum))
  deriving Inhabited

namespace Datum

def get? (key : String) : Datum → Option Datum
  | table entries => (entries.find? fun e => e.1 == key).map Prod.snd
  | _ => none

def text? : Datum → Option String
  | text s => some s
  | _ => none

def int? : Datum → Option Int
  | int n => some n
  | _ => none

def list? : Datum → Option (List Datum)
  | list items => some items
  | _ => none

def natAt? (key : String) (d : Datum) : Option Nat :=
  ((d.get? key).bind int?).map Int.toNat

def textAt? (key : String) (d : Datum) : Option String :=
  (d.get? key).bind text?

/-- The text that is the value of a key, unless it is empty. -/
def nonemptyAt? (key : String) (d : Datum) : Option String :=
  (d.textAt? key).filter (· ≠ "")

/-- The value of a key, unless it is null. -/
def present? (key : String) (d : Datum) : Option Datum :=
  match d.get? key with
  | some null => none
  | found => found

mutual

def size : Datum → Nat
  | list items => sizeOfItems items + 1
  | table entries => sizeOfEntries entries + 1
  | _ => 1

def sizeOfItems : List Datum → Nat
  | [] => 0
  | d :: rest => size d + sizeOfItems rest

def sizeOfEntries : List (String × Datum) → Nat
  | [] => 0
  | (_, d) :: rest => size d + sizeOfEntries rest

end

end Datum

end LozengeNav
