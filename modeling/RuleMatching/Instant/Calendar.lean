/-!
The Gregorian calendar, extended backwards over all years.  Days are counted from the first of
January of the year 0; `Date.ofDayNumber` finds the date of a day and `Date.dayNumber` the day of a
date.
-/

set_option autoImplicit false
set_option relaxedAutoImplicit false

namespace RuleMatching.Calendar

def isLeap (y : Int) : Bool := y % 4 == 0 && (y % 100 != 0 || y % 400 == 0)

def yearLength (y : Int) : Int := if isLeap y then 366 else 365

/-- The number of days from the first of January of the year 0 to that of the year `y`. -/
def yearStart (y : Int) : Int := 365 * y + (y + 3) / 4 - (y + 99) / 100 + (y + 399) / 400

/-- A year starts one year's length after the year before it. -/
theorem yearStart_succ (y : Int) : yearStart (y + 1) = yearStart y + yearLength y := by
  unfold yearStart yearLength isLeap
  by_cases h4 : y % 4 = 0 <;> by_cases h100 : y % 100 = 0 <;> by_cases h400 : y % 400 = 0 <;>
    simp [h4, h100, h400] <;> omega

def monthLengths (leap : Bool) : List Nat :=
  [31, if leap then 29 else 28, 31, 30, 31, 30, 31, 31, 30, 31, 30, 31]

/-- The number of days in a month of a year, zero for a month that does not exist. -/
def monthLength (y : Int) (m : Nat) : Nat :=
  if m = 0 then 0 else (monthLengths (isLeap y)).getD (m - 1) 0

/-- A date. -/
structure Date where
  year : Int
  month : Nat
  day : Nat
  deriving DecidableEq, Repr

def Date.isValid (d : Date) : Bool := 1 ≤ d.day && d.day ≤ monthLength d.year d.month

/-- The number of days in the first `count` months of the given lengths. -/
def daysOfMonths : Nat → List Nat → Nat
  | 0, _ => 0
  | _ + 1, [] => 0
  | count + 1, l :: ls => l + daysOfMonths count ls

/-- The number of days from the first of January of the year 0 to a date. -/
def Date.dayNumber (d : Date) : Int :=
  yearStart d.year + (daysOfMonths (d.month - 1) (monthLengths (isLeap d.year)) : Int) + d.day - 1

def yearOf (n : Int) : Int :=
  let y := n * 400 / 146097
  if n < yearStart y then y - 1 else if yearStart (y + 1) ≤ n then y + 1 else y

/-- The month and the day of the month, both counted from one, of the day with number `n`, counted
from zero, within months of the given lengths of which the first is the month `m`. -/
def monthAndDay (m : Nat) : List Nat → Nat → Nat × Nat
  | [], n => (m, n + 1)
  | l :: ls, n => if n < l ∨ ls = [] then (m, n + 1) else monthAndDay (m + 1) ls (n - l)

def Date.ofDayNumber (n : Int) : Date :=
  let y := yearOf n
  let (m, d) := monthAndDay 1 (monthLengths (isLeap y)) (n - yearStart y).toNat
  ⟨y, m, d⟩

end RuleMatching.Calendar
