/-!
Labels of domain names written in ASCII: the code points that are not ASCII are described by numbers
behind the last hyphen.

Each number tells how far to go on from the last insertion, counting every place for every code
point. Its digits weigh more or less depending on where the thresholds lie, which adapt to the
numbers seen.
-/

namespace Fingerprint.Url.Punycode

def base : Nat := 36

/-- The limit of the numbers, so that they fit 32 bits. -/
def limit : Nat := 1 <<< 32

/-- The threshold below which a digit ends its number, at the weight `step` times `base`. -/
def threshold (bias step : Nat) : Nat :=
  min 26 (max 1 (step - bias))

/-- How often a number is divided until it is small, and what remains. -/
def settle : Nat → Nat → Nat → Nat × Nat
  | 0, delta, count => (delta, count)
  | fuel + 1, delta, count =>
    if delta > 455 then settle fuel (delta / 35) (count + 1) else (delta, count)

/-- The bias behind a number: it estimates how large the next one is. -/
def adapt (delta places : Nat) (isFirst : Bool) : Nat :=
  let delta := if isFirst then delta / 700 else delta / 2
  let (delta, count) := settle 32 (delta + delta / places) 0
  base * count + 36 * delta / (delta + 38)

def digit? (c : Char) : Option Nat :=
  if c.isLower then some (c.toNat - 'a'.toNat)
  else if c.isDigit then some (26 + (c.toNat - '0'.toNat))
  else none

/-- The first number, added to `sum`, and the characters behind it. -/
def number? (bias : Nat) : List Char → Nat → Nat → Nat → Option (Nat × List Char)
  | [], _, _, _ => none
  | c :: rest, step, weight, sum => do
    let digit ← digit? c
    let sum ← some (sum + digit * weight) |>.filter (· < limit)
    let bound := threshold bias step
    if digit < bound then return (sum, rest)
    let weight ← some (weight * (base - bound)) |>.filter (· < limit)
    number? bias rest (step + base) weight sum

/-- Inserts the code points that the numbers describe. `next` is the least code point that can come
next and `place` where it would go; the bound is the number of characters. -/
def insertions? : Nat → List Char → Nat → Nat → Nat → List Nat → Option (List Nat)
  | _, [], _, _, _, codes => some codes
  | 0, _, _, _, _, _ => none
  | fuel + 1, text, next, place, bias, codes => do
    let (sum, rest) ← number? bias text base 1 place
    let places := codes.length + 1
    let code := next + sum / places
    let index := sum % places
    if code.isValidChar then
      insertions? fuel rest code (index + 1) (adapt (sum - place) places (place = 0))
        (codes.take index ++ code :: codes.drop index)
    else none

/-- The part in front of the last hyphen, and the part behind it. A hyphen at the beginning
separates nothing. -/
def split (text : List Char) : List Char × List Char :=
  let back := text.reverse.takeWhile (· ≠ '-')
  match text.take (text.length - back.length - 1) with
  | [] => ([], text)
  | plain => (plain, back.reverse)

/-- The code points of a label without its `xn--`, in small letters. -/
def decode? (text : List Char) : Option (List Nat) :=
  let (plain, numbers) := split text
  insertions? numbers.length numbers 128 0 72 (plain.map Char.toNat)

end Fingerprint.Url.Punycode
