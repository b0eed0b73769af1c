import Mathlib.Data.List.TakeWhile
import RuleMatching.Instant.Reading
import RuleMatching.Proofs.Instant.Text

/-!
Reading what is written.  Every day has a date that exists, and each part of the text of an instant is
read as what it was written for, so an instant of the years 0 to 9999 is read from its text, leap
seconds at the ends of minutes and all: `Instant.read?_text`.
-/

set_option autoImplicit false
set_option relaxedAutoImplicit false

namespace RuleMatching

open Numeral

namespace Calendar

/-- A day is before the first of the year after the one that it is taken to be in. -/
theorem lt_yearStart_yearOf_succ (n : Int) : n < yearStart (yearOf n + 1) := by
  unfold yearOf
  simp only
  split
  · rename_i hbefore
    rwa [Int.sub_add_cancel]
  · split
    · unfold yearStart
      omega
    · omega

/-- The months of a year have all its days. -/
theorem daysOfMonths_monthLengths (y : Int) :
    (daysOfMonths 12 (monthLengths (isLeap y)) : Int) = yearLength y := by
  rw [yearLength]
  cases isLeap y <;> rfl

/-- A day of the year is one of the days of a month. -/
theorem monthAndDay_mem (m : Nat) {ls : List Nat} {n : Nat} (h : n < daysOfMonths ls.length ls) :
    ∃ k < ls.length, (monthAndDay m ls n).1 = m + k ∧ 1 ≤ (monthAndDay m ls n).2 ∧
      (monthAndDay m ls n).2 ≤ ls.getD k 0 := by
  induction ls generalizing m n with
  | nil => exact absurd h (Nat.not_lt_zero n)
  | cons l ls ih =>
    rw [List.length_cons, daysOfMonths] at h
    rw [monthAndDay]
    by_cases hfirst : n < l
    · rw [if_pos (.inl hfirst)]
      exact ⟨0, Nat.succ_pos _, rfl, Nat.succ_pos n, hfirst⟩
    · -- There is a month behind the first, or the day would be in it.
      have hrest : ls ≠ [] := by
        rintro rfl
        simp only [daysOfMonths, List.length_nil] at h
        omega
      rw [if_neg (by simp [hfirst, hrest])]
      obtain ⟨k, hk, hmonth, hfirstDay, hlastDay⟩ := @ih (m + 1) (n - l) (by omega)
      exact ⟨k + 1, Nat.succ_lt_succ hk, by omega, hfirstDay, by simpa using hlastDay⟩

/-- The date of a day exists, and its month is one of twelve. -/
theorem ofDayNumber_valid (n : Int) :
    (Date.ofDayNumber n).isValid = true ∧ (Date.ofDayNumber n).month ≤ 12 := by
  have hstart := yearStart_yearOf_le n
  have hend := lt_yearStart_yearOf_succ n
  rw [yearStart_succ, ← daysOfMonths_monthLengths] at hend
  have hlength : (monthLengths (isLeap (yearOf n))).length = 12 := by
    cases isLeap (yearOf n) <;> rfl
  have hday : (n - yearStart (yearOf n)).toNat <
      daysOfMonths (monthLengths (isLeap (yearOf n))).length (monthLengths (isLeap (yearOf n))) := by
    rw [hlength]
    omega
  obtain ⟨k, hk, hmonth, hfirstDay, hlastDay⟩ := monthAndDay_mem 1 hday
  rw [hlength] at hk
  refine ⟨?_, ?_⟩
  · simp only [Date.ofDayNumber, Date.isValid, monthLength, hmonth, Bool.and_eq_true,
      decide_eq_true_eq]
    rw [if_neg (by omega), Nat.add_sub_cancel_left]
    exact ⟨hfirstDay, hlastDay⟩
  · simp only [Date.ofDayNumber, hmonth]
    omega

/-- No month has more than 31 days. -/
theorem day_le_of_isValid {d : Date} (h : d.isValid = true) : d.day ≤ 31 := by
  have hlengths : ∀ leap, ∀ l ∈ monthLengths leap, l ≤ 31 := by decide
  simp only [Date.isValid, monthLength, Bool.and_eq_true] at h
  have hday := of_decide_eq_true h.2
  split at hday
  · omega
  · rw [List.getD_eq_getElem?_getD] at hday
    cases hmonth : (monthLengths (isLeap d.year))[d.month - 1]? with
    | none =>
      rw [hmonth] at hday
      exact hday.trans (Nat.zero_le 31)
    | some l =>
      rw [hmonth] at hday
      exact hday.trans (hlengths _ l (List.mem_of_getElem? hmonth))

end Calendar

namespace Instant

/-- Digits filled up to a width are read as their number. -/
theorem readNumber_fillTo {width n : Nat} (hwidth : 0 < width) (hn : n < 10 ^ width)
    (rest : List Char) :
    readNumber width width (fillTo width (digits n) ++ rest) = some (n, rest) := by
  have hlength := length_fillTo hwidth hn
  have htake : (fillTo width (digits n) ++ rest).take width = fillTo width (digits n) := by
    rw [List.take_append_of_le_length (by omega), List.take_of_length_le (by omega)]
  have hdigits : (fillTo width (digits n)).takeWhile Char.isDigit = fillTo width (digits n) :=
    List.takeWhile_eq_self_iff.mpr isDigit_of_mem_fillTo
  have hvalue : Nat.ofDigitChars 10 (fillTo width (digits n)) 0 = n := valueOf_fillTo width n
  rw [readNumber, htake, hdigits, List.drop_left, hvalue, if_neg (by omega)]

theorem readChar_cons (c : Char) (rest : List Char) : readChar c (c :: rest) = some rest := by
  rw [readChar, if_pos rfl]

/-- The part of a second is read from its text, up to what ends it. -/
theorem readFraction_fractionText {n : Nat} (hn : n < 1000000000) (zone : List Char) :
    readFraction ((fractionText n).toList ++ '+' :: zone) = some (n, '+' :: zone) := by
  by_cases hzero : n = 0
  · subst hzero
    rfl
  · obtain ⟨width, k, htext, hlength, rfl, hwidth⟩ := toList_fractionText hzero hn
    have hdigits : ∀ c ∈ fillTo width (digits k), c.isDigit = true := isDigit_of_mem_fillTo
    have htaken : (fillTo width (digits k) ++ '+' :: zone).takeWhile Char.isDigit =
        fillTo width (digits k) := by
      rw [List.takeWhile_append_of_pos hdigits, List.takeWhile_cons_of_neg (by decide),
        List.append_nil]
    have hleft : (fillTo width (digits k) ++ '+' :: zone).dropWhile Char.isDigit = '+' :: zone := by
      rw [List.dropWhile_append_of_pos hdigits, List.dropWhile_cons_of_neg (by decide)]
    have hnumber : Nat.ofDigitChars 10 (fillTo width (digits k)) 0 = k := valueOf_fillTo width k
    have hvalue : nanosecondsOf (fillTo width (digits k)) = k * 10 ^ (9 - width) := by
      rw [nanosecondsOf, List.take_of_length_le (by omega), hnumber, hlength]
      rfl
    have hne : (fillTo width (digits k)).isEmpty = false := by
      simpa using fillTo_ne_nil width k
    rw [htext, List.cons_append, readFraction]
    simp only [htaken, hleft, hvalue, hne, Bool.false_eq_true, if_false]

theorem ofParts?_second_nanosecond {t : Instant} (hregular : t.IsRegular) :
    ofParts? t.second t.nanosecond = some t := by
  rw [ofParts?, dif_pos ⟨t.nanosecond_lt, hregular⟩]

theorem secondOfDay_lt (t : Instant) : t.secondOfDay < 86400 := by
  unfold secondOfDay
  omega

/-- The second that the text of an instant names: a leap second is the second 60 of its minute. -/
def namedSecond (t : Instant) : Nat := t.secondOfDay % 60 + if t.isLeap then 1 else 0

/-- The nanoseconds of an instant since the second began that its text names. -/
def namedNanosecond (t : Instant) : Nat := t.nanosecond - if t.isLeap then 1000000000 else 0

/-- The second 60 and its nanoseconds stand for a leap second, if none is within a minute. -/
theorem namedSecond_cases {t : Instant} (hregular : t.IsRegular) :
    (t.namedSecond ≤ 59 ∧ t.namedSecond = t.secondOfDay % 60 ∧ t.namedNanosecond = t.nanosecond) ∨
      t.namedSecond = 60 ∧ t.secondOfDay % 60 = 59 ∧
        t.namedNanosecond + 1000000000 = t.nanosecond := by
  rw [namedSecond, namedNanosecond, isLeap]
  by_cases hleap : 1000000000 ≤ t.nanosecond
  · have hminute := hregular hleap
    have hlast : t.secondOfDay % 60 = 59 := by
      unfold secondOfDay
      omega
    simp only [hleap, decide_true, if_true]
    omega
  · simp only [hleap, decide_false, Bool.false_eq_true, if_false]
    omega

/-- An instant is at its date and at the time of the day that its text names. -/
theorem ofLocal?_date {t : Instant} (hregular : t.IsRegular) (hfirst : firstYear ≤ t.date.year)
    (hlast : t.date.year ≤ lastYear) :
    ofLocal? t.date ⟨t.secondOfDay / 3600, t.secondOfDay / 60 % 60, t.namedSecond,
      t.namedNanosecond⟩ 0 = some t := by
  have hday : t.date.dayNumber = t.second / 86400 + epochDay := by
    rw [date, Calendar.dayNumber_ofDayNumber]
  have hvalid : t.date.isValid = true := (Calendar.ofDayNumber_valid _).1
  have hbound := t.secondOfDay_lt
  have hsecondOfDay : (t.secondOfDay : Int) = t.second % 86400 := by
    unfold secondOfDay
    omega
  have htime : TimeOfDay.isValid ⟨t.secondOfDay / 3600, t.secondOfDay / 60 % 60, t.namedSecond,
      t.namedNanosecond⟩ = true := by
    simp only [TimeOfDay.isValid, Bool.and_eq_true, decide_eq_true_eq]
    have hcases := namedSecond_cases hregular
    omega
  have hsecond : (t.date.dayNumber - epochDay) * 86400 + (t.secondOfDay / 3600 : Nat) * 3600 +
      (t.secondOfDay / 60 % 60 : Nat) * 60 + (min t.namedSecond 59 : Nat) - 0 = t.second := by
    have hcases := namedSecond_cases hregular
    rw [hday]
    omega
  have hnanosecond :
      t.namedNanosecond + (if t.namedSecond = 60 then 1000000000 else 0) = t.nanosecond := by
    have hcases := namedSecond_cases hregular
    split <;> omega
  rw [ofLocal?]
  simp only [hvalid, htime, hfirst, hlast, decide_true, Bool.and_self, if_true, hsecond,
    hnanosecond, ofParts?_second_nanosecond hregular]

/-- A full time stamp is read from the text of an instant, if the year has four digits. -/
theorem readStamped?_text {t : Instant} (hregular : t.IsRegular) (hfirst : 0 ≤ t.date.year)
    (hlast : t.date.year ≤ 9999) : readStamped? t.text.toList = some t := by
  have hsign : yearSign t.date.year = [] := by rw [yearSign, if_pos ⟨hfirst, hlast⟩]
  obtain ⟨hvalid, hmonth⟩ : t.date.isValid = true ∧ t.date.month ≤ 12 :=
    Calendar.ofDayNumber_valid (t.second / 86400 + epochDay)
  have hday := Calendar.day_le_of_isValid hvalid
  have hbound := t.secondOfDay_lt
  have hsecond : t.secondOfDay % 60 + (if t.isLeap then 1 else 0) < 10 ^ 2 := by
    split <;> omega
  have hpart : ∀ {n : Nat} (rest : List Char), n < 10 ^ 2 →
      readNumber 2 2 (fillTo 2 (digits n) ++ rest) = some (n, rest) :=
    fun rest hn => readNumber_fillTo (by decide) hn rest
  have hoffset : readOffset ('+' :: "00:00".toList) = some (0, []) := by decide
  rw [toList_text, toList_yearText, hsign, List.nil_append, readStamped?]
  simp only [readNumber_fillTo (show 0 < 4 by decide) (show t.date.year.natAbs < 10 ^ 4 by omega),
    hpart _ (show t.date.month < 10 ^ 2 by omega), hpart _ (show t.date.day < 10 ^ 2 by omega),
    hpart _ (show t.secondOfDay / 3600 < 10 ^ 2 by omega),
    hpart _ (show t.secondOfDay / 60 % 60 < 10 ^ 2 by omega), hpart _ hsecond,
    readFraction_fractionText (nanosecond_sub_lt t), readChar_cons, hoffset, Option.bind_eq_bind,
    Option.bind_some, Option.orElse_some, List.isEmpty_nil, if_true]
  rw [Int.natAbs_of_nonneg hfirst]
  exact ofLocal?_date hregular (by unfold firstYear; omega) (by unfold lastYear; omega)

/-- An instant of a year of four digits is read from its text, if no second runs on but the last of a
minute. -/
theorem read?_text {t : Instant} (hregular : t.IsRegular) (hfirst : 0 ≤ t.date.year)
    (hlast : t.date.year ≤ 9999) : read? t.text = some t := by
  rw [read?, readStamped?_text hregular hfirst hlast, Option.orElse_some]

end Instant

end RuleMatching
