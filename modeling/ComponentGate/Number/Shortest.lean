import ComponentGate.Number.Binary64

/-!
The text of a binary number: the fewest decimal digits that read back as that number, and of those
the nearest. Numbers of ordinary size are written positionally, the others with an exponent.
-/

namespace ComponentGate.Binary64

/-- Decimal digits, with a point in front of the first one shifted right by `point` places. -/
structure Decimal where
  digits : Nat
  count : Nat
  point : Int
  deriving DecidableEq, Repr

/-- The bounds of the ratios that round to a number, and whether they belong to it; as multiples of
`2 ^ (exponent - 2)`. -/
structure RoundingRange where
  least : Nat
  greatest : Nat
  closed : Bool

/-- Below a power of two the numbers lie twice as close. -/
def roundingRange (significand : Nat) (exponent : Int) : RoundingRange where
  least :=
    if significand = Nat.pow 2 (precision - 1) ∧ leastExponent < exponent then 4 * significand - 1
    else 4 * significand - 2
  greatest := 4 * significand + 2
  closed := significand % 2 = 0

def RoundingRange.contains (range : RoundingRange) (numerator denominator : Nat) : Bool :=
  if range.closed then
    range.least * denominator ≤ numerator && numerator ≤ range.greatest * denominator
  else range.least * denominator < numerator && numerator < range.greatest * denominator

/-- How far the point stands from the first digit of a positive ratio. -/
def pointOf (numerator denominator : Nat) : Int :=
  if denominator ≤ numerator then (Nat.toDigits 10 (numerator / denominator)).length
  else 1 - leadingZeros 400 numerator
where
  leadingZeros : Nat → Nat → Nat
    | 0, _ => 0
    | fuel + 1, numerator =>
      if denominator ≤ numerator then 0 else leadingZeros fuel (numerator * 10) + 1

/-- A number's neighbours with `count` digits that lie in its range, the nearer one first. -/
def onGrid (range : RoundingRange) (significand : Nat) (exponent point : Int) (count : Nat) :
    Option Nat :=
  let step : Int := point - count
  let (numerator, denominator) := scaled significand 1 (-exponent)
  let (numerator, denominator) :=
    if step < 0 then (numerator * Nat.pow 10 (-step).toNat, denominator)
    else (numerator, denominator * Nat.pow 10 step.toNat)
  let below := numerator / denominator
  let rest := numerator % denominator
  let isIn := fun (candidate : Nat) =>
    let (candidateTop, candidateBottom) :=
      if step < 0 then (candidate, Nat.pow 10 (-step).toNat) else (candidate * Nat.pow 10 step.toNat, 1)
    let (top, bottom) := scaled candidateTop candidateBottom (exponent - 2)
    range.contains top bottom
  let nearerBelow := 2 * rest < denominator || (2 * rest == denominator && below % 2 == 0)
  match isIn below, isIn (below + 1) with
  | true, true => some (if nearerBelow then below else below + 1)
  | true, false => some below
  | false, true => some (below + 1)
  | false, false => none

/-- The shortest decimal of a positive number; `fuel` counts the digit counts still to be tried. -/
def shortestFrom (range : RoundingRange) (significand : Nat) (exponent point : Int) :
    Nat → Nat → Decimal
  | 0, count => ⟨0, count, point⟩
  | fuel + 1, count =>
    match onGrid range significand exponent point count with
    | some digits => ⟨digits, count, point⟩
    | none => shortestFrom range significand exponent point fuel (count + 1)

def shortest (significand : Nat) (exponent : Int) : Decimal :=
  let (numerator, denominator) := scaled significand 1 (-exponent)
  let point := pointOf numerator denominator
  let found := shortestFrom (roundingRange significand exponent) significand exponent point 17 1
  if found.digits = Nat.pow 10 found.count then ⟨1, 1, point + 1⟩ else found

/-- The point stands at most this far behind the first digit of a number written positionally. -/
def positionalLimit : Int := 16

/-- The point stands at most this far before the first digit of a number written positionally. -/
def positionalStart : Int := -3

/-- An exponent has a sign and at least two digits. -/
def exponentText (exponent : Int) : String :=
  let digits := toString exponent.natAbs
  let padded := if digits.length < 2 then "0" ++ digits else digits
  (if exponent < 0 then "-" else "+") ++ padded

def Decimal.toText (decimal : Decimal) : String :=
  let digits := Nat.toDigits 10 decimal.digits
  if decimal.point < positionalStart ∨ positionalLimit < decimal.point then
    let fraction := digits.drop 1
    let mantissa := digits.take 1 ++ (if fraction.isEmpty then [] else '.' :: fraction)
    String.ofList mantissa ++ "e" ++ exponentText (decimal.point - 1)
  else if decimal.point ≤ 0 then
    "0." ++ String.ofList (List.replicate (-decimal.point).toNat '0' ++ digits)
  else
    let whole := digits.take decimal.point.toNat
    let zeros := List.replicate (decimal.point.toNat - digits.length) '0'
    let fraction := digits.drop decimal.point.toNat
    String.ofList (whole ++ zeros ++ '.' :: (if fraction.isEmpty then ['0'] else fraction))

def toText : Binary64 → String
  | .nan => "nan"
  | .infinite negative => if negative then "-inf" else "inf"
  | .finite negative significand exponent =>
    let text := if significand = 0 then "0.0" else (shortest significand exponent).toText
    if negative then "-" ++ text else text

end ComponentGate.Binary64
