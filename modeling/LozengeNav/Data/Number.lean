/-!
# Decimal numbers and binary fractions

Reading a decimal number to the nearest binary fraction of double precision, and writing a binary
fraction with the fewest digits that read back.
-/

namespace LozengeNav

namespace Number

/-- The binary fraction nearest to `mantissa * 10 ^ exponent`.  Numbers that are out of range by
their number of digits are not multiplied out. -/
def ofDecimal (negative : Bool) (mantissa : Nat) (exponent : Int) : Float :=
  let digits : Int := (Nat.toDigits 10 mantissa).length
  let x : Float :=
    if mantissa = 0 then 0
    else if digits + exponent > 400 then 1 / 0
    else if digits + exponent < -400 then 0
    else if exponent < 0 then Float.ofScientific mantissa true exponent.natAbs
    else Float.ofScientific (mantissa * Nat.pow 10 exponent.toNat) false 0
  if negative then -x else x

structure Ratio where
  num : Nat
  den : Nat

namespace Ratio

/-- `m * 2 ^ q`. -/
def scaled (m : Nat) (q : Int) : Ratio :=
  if q < 0 then ⟨m, Nat.pow 2 q.natAbs⟩ else ⟨m * Nat.pow 2 q.toNat, 1⟩

/-- `d * 10 ^ p`. -/
def decimal (d : Nat) (p : Int) : Ratio :=
  if p < 0 then ⟨d, Nat.pow 10 p.natAbs⟩ else ⟨d * Nat.pow 10 p.toNat, 1⟩

/-- Order by cross-multiplication. -/
def le (a b : Ratio) : Bool :=
  a.num * b.den ≤ b.num * a.den

/-- Strict order. -/
def lt (a b : Ratio) : Bool :=
  a.num * b.den < b.num * a.den

def distance (a b : Ratio) : Ratio :=
  let x := a.num * b.den
  let y := b.num * a.den
  ⟨(x - y) + (y - x), a.den * b.den⟩

end Ratio

/-- The numbers that round to a binary fraction: the fraction itself, the ends of its interval, and
whether the ends belong to it. -/
structure Cell where
  value : Ratio
  low : Ratio
  high : Ratio
  closed : Bool

namespace Cell

def ofBits (bits : Nat) : Cell :=
  let fraction : Nat := bits % Nat.pow 2 52
  let biased : Nat := bits / Nat.pow 2 52 % 2048
  let m : Nat := if biased = 0 then fraction else Nat.pow 2 52 + fraction
  let power := if biased = 0 then 1 else biased
  let q : Int := (power : Int) - 1075
  let low := if fraction = 0 && biased > 1 then Ratio.scaled (4 * m - 1) (q - 2)
    else Ratio.scaled (2 * m - 1) (q - 1)
  ⟨Ratio.scaled m q, low, Ratio.scaled (2 * m + 1) (q - 1), m % 2 == 0⟩

def holds (c : Cell) (r : Ratio) : Bool :=
  if c.closed then c.low.le r && r.le c.high else c.low.lt r && r.lt c.high

/-- The decimal on the grid `10 ^ p` that rounds to the fraction, if one of its two neighbours on
the grid does: the nearer, or the even one if both are equally near. -/
def onGrid? (c : Cell) (p : Int) : Option Nat :=
  let unit := Ratio.decimal 1 p
  let below := c.value.num * unit.den / (c.value.den * unit.num)
  let above := below + 1
  let lower := Ratio.decimal below p
  let upper := Ratio.decimal above p
  match c.holds lower && below ≠ 0, c.holds upper with
  | true, true =>
    let down := c.value.distance lower
    let up := c.value.distance upper
    if down.lt up || (down.le up && below % 2 == 0) then some below else some above
  | true, false => some below
  | false, true => some above
  | false, false => none

/-- The decimal exponent of the fraction: `10 ^ e ≤ value < 10 ^ (e + 1)`. -/
def exponent (c : Cell) : Int :=
  let guess : Int :=
    (Nat.toDigits 10 c.value.num).length - ((Nat.toDigits 10 c.value.den).length : Int)
  if (Ratio.decimal 1 (guess + 1)).le c.value then guess + 1
  else if (Ratio.decimal 1 guess).le c.value then guess
  else guess - 1

/-- The shortest decimal that rounds to the fraction: digits and the exponent of the last one. -/
def shortest (c : Cell) : Nat × Int :=
  let e := c.exponent
  let grids : List Int := (List.range 17).map fun (n : Nat) => e - (n : Int)
  (grids.findSome? fun p => (c.onGrid? p).map fun d => (d, p)).getD (0, 0)

end Cell

/-- Digits without the zeros at their end, and the exponent of the last one left. -/
def stripZeros (digits : List Char) (p : Int) : List Char × Int :=
  let zeros := (digits.reverse.takeWhile (· == '0')).length
  (digits.take (digits.length - zeros), p + zeros)

/-- Write digits whose last has exponent `p`.  Numbers from 0.0001 on and below 10 ^ 16 are written
with a point and at least one digit behind it, others with an exponent of two digits or more. -/
def layOut (digits : List Char) (p : Int) : String :=
  let e : Int := p + digits.length - 1
  if -4 ≤ e && e < 16 then
    if p ≥ 0 then String.ofList (digits ++ List.replicate p.toNat '0') ++ ".0"
    else if e < 0 then
      "0." ++ String.ofList (List.replicate (e.natAbs - 1) '0' ++ digits)
    else
      let whole := (e + 1).toNat
      String.ofList (digits.take whole) ++ "." ++ String.ofList (digits.drop whole)
  else
    let mark := if e < 0 then "e-" else "e+"
    let power := toString e.natAbs
    let power := if power.length < 2 then "0" ++ power else power
    let tail := digits.drop 1
    String.ofList (digits.take 1) ++ (if tail.isEmpty then "" else "." ++ String.ofList tail) ++
      mark ++ power

/-- Write a binary fraction with the fewest digits that read back. -/
def write (x : Float) : String :=
  if x.isNaN then "nan"
  else
    let bits := x.toBits.toNat
    let sign := if bits ≥ Nat.pow 2 63 then "-" else ""
    let size := bits % Nat.pow 2 63
    if x.isInf then sign ++ "inf"
    else if size = 0 then sign ++ "0.0"
    else
      let (d, p) := (Cell.ofBits size).shortest
      let (digits, p) := stripZeros (Nat.toDigits 10 d) p
      sign ++ layOut digits p

end Number

end LozengeNav
