/-!
# Addresses in brackets

The authority of a URI may hold an Internet address between square brackets.  Only addresses of
version 6, with a zone or not, and addresses of a future version are admitted there.
-/

namespace LozengeNav

namespace Uri

def isHex (c : Char) : Bool :=
  c.isDigit || ('a' ≤ c && c ≤ 'f') || ('A' ≤ c && c ≤ 'F')

namespace Address

/-- Four numbers up to 255 without leading zeros, joined by dots. -/
def isVersion4 (s : List Char) : Bool :=
  let octets := s.splitOn '.'
  octets.length == 4 && octets.all fun o =>
    !o.isEmpty && o.all Char.isDigit && o.length ≤ 3 && (o.length == 1 || o.head? != some '0') &&
      (String.ofList o).toNat?.any (· ≤ 255)

def isGroup (s : List Char) : Bool :=
  !s.isEmpty && s.length ≤ 4 && s.all isHex

/-- The groups of an address of version 6; four numbers at its end stand for two groups.  An
address of four numbers that cannot be read leaves none. -/
def groups? (s : List Char) : Option (List (List Char)) :=
  let parts := s.splitOn ':'
  match parts.getLast? with
  | some last =>
    if parts.length < 3 then none
    else if last.contains '.' then
      if isVersion4 last then some (parts.dropLast ++ [['0'], ['0']]) else none
    else some parts
  | none => none

/-- The positions of the empty groups, the first and the last one apart. -/
def gaps (parts : List (List Char)) : List Nat :=
  (List.range (parts.length - 2)).filterMap fun i =>
    if (parts.getD (i + 1) []).isEmpty then some (i + 1) else none

/-- Whether groups stand for eight: without a gap, or with one gap for at least one group. -/
def groupsFit (parts : List (List Char)) : Bool :=
  let first := (parts.head?.getD []).isEmpty
  let last := (parts.getLast?.getD []).isEmpty
  parts.length ≤ 9 &&
    match gaps parts with
    | [] => parts.length == 8 && parts.all isGroup
    | [gap] =>
      let before := parts.take gap
      let after := parts.drop (gap + 1)
      let high := if first then before.drop 1 else before
      let low := if last then after.dropLast else after
      (!first || high.isEmpty) && (!last || low.isEmpty) && high.length + low.length ≤ 7 &&
        high.all isGroup && low.all isGroup
    | _ => false

/-- An address of version 6, with or without a zone behind a percent sign. -/
def isVersion6 (s : List Char) : Bool :=
  let address := s.takeWhile (· ≠ '%')
  let zone := s.drop address.length
  (zone.isEmpty || (zone.length > 1 && !(zone.drop 1).contains '%')) && !address.isEmpty &&
    (groups? address).any groupsFit

/-- An address of a future version: `v`, a hexadecimal version, a dot and something behind it. -/
def isFuture (s : List Char) : Bool :=
  match s with
  | 'v' :: rest =>
    let version := rest.takeWhile isHex
    match rest.dropWhile isHex with
    | '.' :: more => !version.isEmpty && !more.isEmpty && !more.contains '\n'
    | _ => false
  | _ => false

end Address

end Uri

end LozengeNav
