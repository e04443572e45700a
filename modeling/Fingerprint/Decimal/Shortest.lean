import Fingerprint.Decimal.Double

/-!
The shortest decimal number that reads back as a given double.

Of the decimal numbers with the fewest digits that are nearer to the double than to any other, the
one nearest to it is chosen. `Shortest.positional` writes it without exponent.
-/

namespace Fingerprint.Decimal

/-- A positive decimal number `0.d₁d₂… * 10 ^ point`, without zeros at either end of its digits. -/
structure Digits where
  digits : List Char
  point : Int
deriving DecidableEq, Repr, Inhabited

/-- The quotients of integers that lie between two doubles' midpoints, as a fraction with a common
denominator: the number itself and the ends of its interval. -/
structure Interval where
  value : Nat
  low : Nat
  high : Nat
  denominator : Nat
  closed : Bool

/-- The numbers that read back as a double. The ends belong to them if its mantissa is even. -/
def Parts.interval (parts : Parts) : Interval :=
  let shift := parts.exponent - 2
  let scale := shift.toNat
  let value := 4 * parts.mantissa
  ⟨value <<< scale, (value - if parts.narrow then 1 else 2) <<< scale, (value + 2) <<< scale,
    1 <<< (-shift).toNat, parts.mantissa % 2 = 0⟩

/-- The power of ten that is larger than the number and at most ten times as large, searched for
upward from `start`. -/
def Interval.magnitude (interval : Interval) : Nat → Int → Int
  | 0, point => point
  | fuel + 1, point =>
    if interval.value * Nat.pow 10 (-point).toNat < interval.denominator * Nat.pow 10 point.toNat then
      point
    else interval.magnitude fuel (point + 1)

/-- The multiple of `10 ^ unit` nearest to the number among its two neighbours that lie in the
interval, as a multiplier. -/
def Interval.candidate? (interval : Interval) (unit : Int) : Option Nat :=
  let up := Nat.pow 10 unit.toNat
  let down := Nat.pow 10 (-unit).toNat
  let grid := interval.denominator * up
  let below := interval.value * down / grid
  let within (multiplier : Nat) : Bool :=
    let point := multiplier * grid
    let low := interval.low * down
    let high := interval.high * down
    if interval.closed then low ≤ point && point ≤ high else low < point && point < high
  let rest := interval.value * down - below * grid
  if within below then
    if within (below + 1) && grid < 2 * rest then some (below + 1)
    else if within (below + 1) && grid = 2 * rest && below % 2 = 1 then some (below + 1)
    else some below
  else if within (below + 1) then some (below + 1)
  else none

/-- The first unit, from the largest on, that has a candidate. -/
def Interval.search (interval : Interval) (magnitude : Int) : Nat → Nat → Option (Nat × Int)
  | 0, _ => none
  | fuel + 1, count =>
    match interval.candidate? (magnitude - count) with
    | some multiplier => if multiplier = 0 then interval.search magnitude fuel (count + 1)
      else some (multiplier, magnitude - count)
    | none => interval.search magnitude fuel (count + 1)

/-- The digits of the shortest decimal of a positive double. -/
def Parts.shortest (parts : Parts) : Digits :=
  let interval := parts.interval
  let bits : Int := parts.mantissa.log2 + parts.exponent
  let magnitude := interval.magnitude 8 (bits * 30103 / 100000 - 1)
  match interval.search magnitude 18 1 with
  | some (multiplier, unit) =>
    let text := (toString multiplier).toList
    ⟨((text.reverse.dropWhile (· = '0')).reverse), unit + text.length⟩
  | none => ⟨['0'], 1⟩

/-- The number in positional notation: no exponent, no point if it is an integer. -/
def Digits.positional (number : Digits) : String :=
  let count := number.digits.length
  if number.point ≤ 0 then
    "0." ++ String.ofList (List.replicate (-number.point).toNat '0' ++ number.digits)
  else if (count : Int) ≤ number.point then
    String.ofList (number.digits ++ List.replicate (number.point - count).toNat '0')
  else
    String.ofList (number.digits.take number.point.toNat ++
      '.' :: number.digits.drop number.point.toNat)

/-- A double in positional notation. -/
def positional (bits : UInt64) : String :=
  match kindOfBits bits with
  | .nan => "NaN"
  | .infinite negative => if negative then "-inf" else "inf"
  | .finite negative parts =>
    let text := if parts.mantissa = 0 then "0" else parts.shortest.positional
    if negative then "-" ++ text else text

end Fingerprint.Decimal
