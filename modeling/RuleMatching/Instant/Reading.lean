import RuleMatching.Instant
import RuleMatching.Text.Blank

/-!
Reading an instant.  A text is tried as a full time stamp with an offset from UTC, then as a date
and a time of day in UTC, joined by a `T` or by blanks, and last as a date alone, which means its
first second.
-/

set_option autoImplicit false
set_option relaxedAutoImplicit false

namespace RuleMatching.Instant

/-- A time of day, in which the second 60 is a leap second. -/
structure TimeOfDay where
  hour : Nat
  minute : Nat
  second : Nat
  nanosecond : Nat

/-- Whether the hour, the minute and the second exist. -/
def TimeOfDay.isValid (t : TimeOfDay) : Bool := t.hour < 24 && t.minute < 60 && t.second ≤ 60

/-- The instant at a date and a time of day, `offset` seconds ahead of UTC. -/
def ofLocal? (date : Calendar.Date) (time : TimeOfDay) (offset : Int) : Option Instant :=
  if date.isValid && time.isValid && firstYear ≤ date.year && date.year ≤ lastYear then
    ofParts?
      ((date.dayNumber - epochDay) * 86400 + time.hour * 3600 + time.minute * 60
        + (min time.second 59 : Nat) - offset)
      (time.nanosecond + if time.second = 60 then 1000000000 else 0)
  else none

/-- Takes at most `most` digits from the front; fewer than `least` are refused. -/
def readNumber (least most : Nat) (cs : List Char) : Option (Nat × List Char) :=
  let ds := (cs.take most).takeWhile Char.isDigit
  if ds.length < least then none else some (Nat.ofDigitChars 10 ds 0, cs.drop ds.length)

def readChar (c : Char) : List Char → Option (List Char)
  | [] => none
  | d :: cs => if d = c then some cs else none

/-- The nanoseconds that the digits of a fraction stand for; digits beyond the ninth are cut. -/
def nanosecondsOf (ds : List Char) : Nat :=
  let ds := ds.take 9
  Nat.ofDigitChars 10 ds 0 * Nat.pow 10 (9 - ds.length)

/-- Reads a fraction of a second, if a point stands in front. -/
def readFraction : List Char → Option (Nat × List Char)
  | '.' :: cs =>
      let ds := cs.takeWhile Char.isDigit
      if ds.isEmpty then none else some (nanosecondsOf ds, cs.dropWhile Char.isDigit)
  | cs => some (0, cs)

def readOffsetSize (cs : List Char) : Option (Int × List Char) := do
  let (h, cs) ← readNumber 2 2 cs
  let cs ← readChar ':' cs
  let (m, cs) ← readNumber 2 2 cs
  if h < 24 ∧ m < 60 then some ((h : Int) * 3600 + m * 60, cs) else none

/-- Reads an offset from UTC in seconds: the letter Z, or a sign, hours and minutes. -/
def readOffset : List Char → Option (Int × List Char)
  | [] => none
  | c :: cs =>
      if c = 'Z' ∨ c = 'z' then some (0, cs)
      else if c = '+' then readOffsetSize cs
      else if c = '-' ∨ c = '\u2212' then (readOffsetSize cs).map fun r => (-r.1, r.2)
      else none

/-- Reads a full time stamp with fields of fixed width and an offset. -/
def readStamped? (cs : List Char) : Option Instant := do
  let (year, cs) ← readNumber 4 4 cs
  let cs ← readChar '-' cs
  let (month, cs) ← readNumber 2 2 cs
  let cs ← readChar '-' cs
  let (day, cs) ← readNumber 2 2 cs
  let cs ← (readChar 'T' cs).orElse fun _ => (readChar 't' cs).orElse fun _ => readChar ' ' cs
  let (hour, cs) ← readNumber 2 2 cs
  let cs ← readChar ':' cs
  let (minute, cs) ← readNumber 2 2 cs
  let cs ← readChar ':' cs
  let (second, cs) ← readNumber 2 2 cs
  let (nanosecond, cs) ← readFraction cs
  let (offset, cs) ← readOffset cs
  if cs.isEmpty then ofLocal? ⟨year, month, day⟩ ⟨hour, minute, second, nanosecond⟩ offset
  else none

/-- Reads a year behind blanks: up to four digits, or a sign and any number of digits. -/
def readYear (cs : List Char) : Option (Int × List Char) :=
  match Text.trimStart cs with
  | '-' :: r => (readNumber 1 r.length r).map fun p => (-(p.1 : Int), p.2)
  | '+' :: r => (readNumber 1 r.length r).map fun p => ((p.1 : Int), p.2)
  | r => (readNumber 1 4 r).map fun p => ((p.1 : Int), p.2)

def readField (cs : List Char) : Option (Nat × List Char) := readNumber 1 2 (Text.trimStart cs)

def readDate (cs : List Char) : Option (Calendar.Date × List Char) := do
  let (year, cs) ← readYear cs
  let cs ← readChar '-' cs
  let (month, cs) ← readField cs
  let cs ← readChar '-' cs
  let (day, cs) ← readField cs
  some (⟨year, month, day⟩, cs)

def readTime (cs : List Char) : Option (TimeOfDay × List Char) := do
  let (hour, cs) ← readField cs
  let cs ← readChar ':' cs
  let (minute, cs) ← readField cs
  let cs ← readChar ':' cs
  let (second, cs) ← readField cs
  some (⟨hour, minute, second, 0⟩, cs)

/-- Reads a date and a time of day, in UTC, with the given separation between them. -/
def readSeparated? (separation : List Char → Option (List Char)) (cs : List Char) :
    Option Instant := do
  let (date, cs) ← readDate cs
  let cs ← separation cs
  let (time, cs) ← readTime cs
  if cs.isEmpty then ofLocal? date time 0 else none

def readDay? (cs : List Char) : Option Instant := do
  let (date, cs) ← readDate cs
  if cs.isEmpty then ofLocal? date ⟨0, 0, 0, 0⟩ 0 else none

/-- Reads an instant in the first of the accepted forms that fits. -/
def read? (s : String) : Option Instant :=
  let cs := s.toList
  (readStamped? cs).orElse fun _ =>
    (readSeparated? (readChar 'T') cs).orElse fun _ =>
      (readSeparated? (fun r => some (Text.trimStart r)) cs).orElse fun _ => readDay? cs

end RuleMatching.Instant
