/-!
Doubles: their parts, and the double nearest to a decimal number.
-/

namespace Fingerprint.Decimal

/-- A finite double without its sign: the number `mantissa * 2 ^ exponent`. `narrow` tells that the
gap to the next smaller double is half the gap to the next larger one. -/
structure Parts where
  mantissa : Nat
  exponent : Int
  narrow : Bool
deriving DecidableEq, Repr, Inhabited

/-- What kind of number a double is. -/
inductive Kind where
  | nan
  | infinite (negative : Bool)
  | finite (negative : Bool) (parts : Parts)
deriving DecidableEq, Repr, Inhabited

/-- The kind of the double with these bits. -/
def kindOfBits (bits : UInt64) : Kind :=
  let bits := bits.toNat
  let negative := 1 <<< 63 ≤ bits
  let biased : Nat := (bits >>> 52) % 2048
  let fraction : Nat := bits % (1 <<< 52)
  if biased = 2047 then if fraction = 0 then .infinite negative else .nan
  else if biased = 0 then .finite negative ⟨fraction, -1074, false⟩
  else .finite negative ⟨(1 <<< 52) + fraction, (biased : Int) - 1075, fraction = 0 ∧ 1 < biased⟩

/-- The double nearest to `mantissa * 10 ^ exponent`. Exponents that lead beyond all doubles, or
below them, are cut so that powers stay small. -/
def nearest (mantissa : Nat) (exponent : Int) : Float :=
  if mantissa = 0 then 0
  else
    let digits := mantissa.log2 / 3 + 1
    if 400 < exponent then Float.ofScientific 1 false 400
    else if exponent < -(400 + digits : Int) then 0
    else if exponent < 0 then Float.ofScientific mantissa true exponent.natAbs
    else Float.ofScientific mantissa false exponent.natAbs

end Fingerprint.Decimal
