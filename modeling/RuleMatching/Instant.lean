import RuleMatching.Instant.Calendar
import RuleMatching.Text.Numeral

/-!
Instants.  An instant is a second, counted from the start of 1970 without leap seconds, and the
nanoseconds since that second began.  In a leap second these run on beyond one thousand million.  What
is read from parts has leap seconds at the ends of minutes only, but a program may let any second run
on.  `Instant.text` writes an instant in UTC.
-/

set_option autoImplicit false
set_option relaxedAutoImplicit false

namespace RuleMatching

/-- An instant. -/
structure Instant where
  second : Int
  nanosecond : Nat
  nanosecond_lt : nanosecond < 2000000000
  deriving DecidableEq

namespace Instant

def firstYear : Int := -262143

def lastYear : Int := 262142

def epochDay : Int := Calendar.yearStart 1970

/-- No second runs on but the last of a minute. -/
def IsRegular (t : Instant) : Prop := 1000000000 ≤ t.nanosecond → t.second % 60 = 59

instance (t : Instant) : Decidable t.IsRegular :=
  inferInstanceAs (Decidable (1000000000 ≤ t.nanosecond → t.second % 60 = 59))

/-- The instant with the given second and nanosecond, if there is one whose leap second ends a
minute. -/
def ofParts? (second : Int) (nanosecond : Nat) : Option Instant :=
  if h : nanosecond < 2000000000 ∧ (1000000000 ≤ nanosecond → second % 60 = 59) then
    some ⟨second, nanosecond, h.1⟩
  else none

def isBefore (a b : Instant) : Bool :=
  a.second < b.second || (a.second == b.second && a.nanosecond < b.nanosecond)

/-- A year: four digits, or a sign and at least four digits outside the years 0 to 9999. -/
def yearText (y : Int) : String :=
  if 0 ≤ y ∧ y ≤ 9999 then Numeral.paddedText 4 y.toNat
  else (if y < 0 then "-" else "+") ++ Numeral.paddedText 4 y.natAbs

/-- The part of a second: none, or three, six or nine digits behind a point. -/
def fractionText (n : Nat) : String :=
  if n = 0 then ""
  else if n % 1000000 = 0 then "." ++ Numeral.paddedText 3 (n / 1000000)
  else if n % 1000 = 0 then "." ++ Numeral.paddedText 6 (n / 1000)
  else "." ++ Numeral.paddedText 9 n

def date (t : Instant) : Calendar.Date :=
  Calendar.Date.ofDayNumber (t.second / 86400 + epochDay)

/-- The second of the day of an instant in UTC. -/
def secondOfDay (t : Instant) : Nat := (t.second % 86400).toNat

def isLeap (t : Instant) : Bool := 1000000000 ≤ t.nanosecond

/-- The text of an instant in UTC.  What runs on is in the next second, which is the second 60 at the
end of a minute. -/
def text (t : Instant) : String :=
  let s := t.secondOfDay
  let second := s % 60 + if t.isLeap then 1 else 0
  let nanosecond := t.nanosecond - if t.isLeap then 1000000000 else 0
  yearText t.date.year ++ "-" ++ Numeral.paddedText 2 t.date.month ++ "-" ++
    Numeral.paddedText 2 t.date.day ++ "T" ++ Numeral.paddedText 2 (s / 3600) ++ ":" ++
    Numeral.paddedText 2 (s / 60 % 60) ++ ":" ++ Numeral.paddedText 2 second ++
    fractionText nanosecond ++ "+00:00"

end Instant

end RuleMatching
