/-!
Calendar dates. Only dates that exist can be built.
-/

namespace ComponentGate

/-- Why numbers are no date. -/
inductive DateError where
  | year (number : Nat)
  | month
  | day
  deriving DecidableEq, Repr

def DateError.message : DateError → String
  | .year number => s!"year {number} is out of range"
  | .month => "month must be in 1..12"
  | .day => "day is out of range for month"

namespace Date

def isLeap (year : Nat) : Bool := year % 4 == 0 && (year % 100 != 0 || year % 400 == 0)

def daysInMonth (year month : Nat) : Nat :=
  match month with
  | 2 => if isLeap year then 29 else 28
  | 4 | 6 | 9 | 11 => 30
  | _ => 31

end Date

structure Date where
  year : Nat
  month : Nat
  day : Nat
  year_range : 1 ≤ year ∧ year ≤ 9999
  month_range : 1 ≤ month ∧ month ≤ 12
  day_range : 1 ≤ day ∧ day ≤ Date.daysInMonth year month
  deriving DecidableEq

namespace Date

def ofParts (year month day : Nat) : Except DateError Date :=
  if years : 1 ≤ year ∧ year ≤ 9999 then
    if months : 1 ≤ month ∧ month ≤ 12 then
      if days : 1 ≤ day ∧ day ≤ daysInMonth year month then
        .ok ⟨year, month, day, years, months, days⟩
      else .error .day
    else .error .month
  else .error (.year year)

/-- A number with zeros in front, up to a width. -/
def padded (width number : Nat) : String :=
  let digits := Nat.toDigits 10 number
  String.ofList (List.replicate (width - digits.length) '0' ++ digits)

/-- The date as year, month and day with dashes between. -/
def toText (date : Date) : String :=
  s!"{padded 4 date.year}-{padded 2 date.month}-{padded 2 date.day}"

end Date

end ComponentGate
