/-!
Binary floating-point numbers of 64 bits. A finite number is a significand times a power of two;
`roundRatio` picks the number nearest to a ratio, of two equally near ones that with the even
significand.
-/

namespace ComponentGate

/-- Finite numbers stand for `significand * 2 ^ exponent`, with a sign that zero has, too. -/
inductive Binary64 where
  | nan
  | infinite (negative : Bool)
  | finite (negative : Bool) (significand : Nat) (exponent : Int)
  deriving DecidableEq, Repr, Inhabited

namespace Binary64

/-- Significands stay below two to this power. -/
def precision : Nat := 53

def leastExponent : Int := -1074

def greatestExponent : Int := 971

def zero (negative : Bool) : Binary64 := .finite negative 0 leastExponent

/-- A ratio of naturals divided by a power of two, again as a ratio. -/
def scaled (numerator denominator : Nat) (exponent : Int) : Nat × Nat :=
  if exponent < 0 then (numerator * Nat.pow 2 (-exponent).toNat, denominator)
  else (numerator, denominator * Nat.pow 2 exponent.toNat)

/-- The exponent of the greatest power of two that is not above a positive ratio. -/
def binaryLog (numerator denominator : Nat) : Int :=
  let guess : Int := numerator.log2 - denominator.log2
  let (scaledNumerator, scaledDenominator) := scaled numerator denominator guess
  if scaledDenominator ≤ scaledNumerator then guess else guess - 1

/-- The natural number nearest to a ratio; a half goes to the even neighbour. -/
def roundHalfEven (numerator denominator : Nat) : Nat :=
  let quotient := numerator / denominator
  let twice := 2 * (numerator % denominator)
  if twice < denominator then quotient
  else if denominator < twice then quotient + 1
  else if quotient % 2 = 0 then quotient
  else quotient + 1

/-- The number nearest to a ratio; too large ratios become infinite. -/
def roundRatio (negative : Bool) (numerator denominator : Nat) : Binary64 :=
  if numerator = 0 then zero negative
  else
    let exponent := max leastExponent (binaryLog numerator denominator - (precision - 1 : Nat))
    let (scaledNumerator, scaledDenominator) := scaled numerator denominator exponent
    let significand := roundHalfEven scaledNumerator scaledDenominator
    let (significand, exponent) :=
      if significand = Nat.pow 2 precision then (Nat.pow 2 (precision - 1), exponent + 1)
      else (significand, exponent)
    if greatestExponent < exponent then .infinite negative
    else if significand = 0 then zero negative
    else .finite negative significand exponent

def ofNat (number : Nat) : Binary64 := roundRatio false number 1

/-- The number nearest to `digits * 10 ^ exponent`. Exponents that are clearly out of range are not
computed. -/
def ofDecimal (negative : Bool) (digits : Nat) (exponent : Int) : Binary64 :=
  let size : Int := (Nat.toDigits 10 digits).length + exponent
  if digits = 0 then zero negative
  else if 400 < size then .infinite negative
  else if size < -400 then zero negative
  else if exponent < 0 then roundRatio negative digits (Nat.pow 10 (-exponent).toNat)
  else roundRatio negative (digits * Nat.pow 10 exponent.toNat) 1

/-- A finite number as an integer multiple of `2 ^ exponent`, for an exponent not above its own. -/
def multiple (negative : Bool) (significand : Nat) (own exponent : Int) : Int :=
  let size : Int := significand * Nat.pow 2 (own - exponent).toNat
  if negative then -size else size

/-- The number nearest to `multiple * 2 ^ exponent`. -/
def ofMultiple (multiple : Int) (exponent : Int) : Binary64 :=
  let (numerator, denominator) := scaled multiple.natAbs 1 (-exponent)
  roundRatio (multiple < 0) numerator denominator

/-- The number nearest to the sum. -/
def add : Binary64 → Binary64 → Binary64
  | .nan, _ => .nan
  | _, .nan => .nan
  | .infinite negative, .infinite other => if negative = other then .infinite negative else .nan
  | .infinite negative, .finite .. => .infinite negative
  | .finite .., .infinite negative => .infinite negative
  | .finite negative significand exponent, .finite negative' significand' exponent' =>
    let common := min exponent exponent'
    let sum :=
      multiple negative significand exponent common + multiple negative' significand' exponent' common
    if sum = 0 then zero (negative && negative') else ofMultiple sum common

/-- The number nearest to twice a number. -/
def double (number : Binary64) : Binary64 := add number number

/-- Whether one number is below the other; nothing is below or above what is not a number. -/
def isBelow : Binary64 → Binary64 → Bool
  | .nan, _ => false
  | _, .nan => false
  | .infinite negative, .infinite other => negative && !other
  | .infinite negative, .finite .. => negative
  | .finite .., .infinite negative => !negative
  | .finite negative significand exponent, .finite negative' significand' exponent' =>
    let common := min exponent exponent'
    multiple negative significand exponent common <
      multiple negative' significand' exponent' common

/-- The smaller of two numbers, the first where they do not differ. -/
def least (first second : Binary64) : Binary64 := if second.isBelow first then second else first

/-- The greater of two numbers, the first where they do not differ. -/
def greatest (first second : Binary64) : Binary64 :=
  if first.isBelow second then second else first

def isZero : Binary64 → Bool
  | .finite _ significand _ => significand == 0
  | _ => false

end Binary64

end ComponentGate
