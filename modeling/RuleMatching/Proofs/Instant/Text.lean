import Mathlib.Tactic.ByContra
import RuleMatching.Instant
import RuleMatching.Proofs.Text.Numeral

/-!
Instants and their texts.  The date of a day tells the day, and the text of an instant tells the date,
the time of the day and the nanoseconds.  So instants that are written alike are the same, unless one is
in the second after a second that runs on in the other, within a minute: `Instant.text_inj`.
-/

set_option autoImplicit false
set_option relaxedAutoImplicit false

namespace RuleMatching

open Numeral

namespace Calendar

/-- A day is at least the first of the year that it is taken to be in. -/
theorem yearStart_yearOf_le (n : Int) : yearStart (yearOf n) ≤ n := by
  unfold yearOf
  simp only
  split
  · unfold yearStart
    omega
  · split <;> omega

/-- The month and the day of the month tell the day. -/
theorem daysOfMonths_monthAndDay (m : Nat) (ls : List Nat) (n : Nat) :
    ∃ k, (monthAndDay m ls n).1 = m + k ∧ daysOfMonths k ls + (monthAndDay m ls n).2 = n + 1 := by
  induction ls generalizing m n with
  | nil => exact ⟨0, rfl, by simp [daysOfMonths, monthAndDay]⟩
  | cons l ls ih =>
    rw [monthAndDay]
    split
    · exact ⟨0, rfl, by simp [daysOfMonths]⟩
    · rename_i hlater
      obtain ⟨k, hm, hn⟩ := ih (m + 1) (n - l)
      refine ⟨k + 1, by omega, ?_⟩
      rw [daysOfMonths]
      omega

/-- The date of a day has that day. -/
theorem dayNumber_ofDayNumber (n : Int) : (Date.ofDayNumber n).dayNumber = n := by
  have hstart := yearStart_yearOf_le n
  obtain ⟨k, hmonth, hday⟩ := daysOfMonths_monthAndDay 1 (monthLengths (isLeap (yearOf n)))
    (n - yearStart (yearOf n)).toNat
  simp only [Date.ofDayNumber, Date.dayNumber, hmonth, Nat.add_sub_cancel_left]
  omega

end Calendar

namespace Instant

/-- The sign in front of the digits of a year, if there is one. -/
def yearSign (y : Int) : List Char :=
  if 0 ≤ y ∧ y ≤ 9999 then [] else if y < 0 then ['-'] else ['+']

theorem yearSign_eq_minus_iff {y : Int} : yearSign y = ['-'] ↔ y < 0 := by
  unfold yearSign
  split
  · exact iff_of_false (by simp) (by omega)
  · split <;> simp_all

theorem toList_yearText (y : Int) :
    (yearText y).toList = yearSign y ++ fillTo 4 (digits y.natAbs) := by
  unfold yearText yearSign
  split
  · have habs : y.toNat = y.natAbs := by omega
    rw [paddedText, String.toList_ofList, habs, List.nil_append]
  · rw [String.toList_append, paddedText, String.toList_ofList]
    split <;> rfl

/-- A sign is no digit, so it can be told from the digits behind it. -/
theorem sign_append_inj {a b ds es : List Char} (ha : a = [] ∨ ∃ c, a = [c] ∧ c.isDigit = false)
    (hb : b = [] ∨ ∃ c, b = [c] ∧ c.isDigit = false) (hds : ∃ d ds', ds = d :: ds' ∧ d.isDigit)
    (hes : ∃ e es', es = e :: es' ∧ e.isDigit) (h : a ++ ds = b ++ es) : a = b ∧ ds = es := by
  obtain ⟨d, ds', rfl, hd⟩ := hds
  obtain ⟨e, es', rfl, he⟩ := hes
  rcases ha with rfl | ⟨c, rfl, hc⟩ <;> rcases hb with rfl | ⟨c', rfl, hc'⟩
  · exact ⟨rfl, h⟩
  · obtain ⟨rfl, -⟩ := List.cons.inj h
    simp [hd] at hc'
  · obtain ⟨rfl, -⟩ := List.cons.inj h
    simp [he] at hc
  · obtain ⟨rfl, hrest⟩ := List.cons.inj h
    exact ⟨rfl, hrest⟩

/-- The text of a year, and a character that ends it, tell the year. -/
theorem yearText_append_inj {y z : Int} {cs bs : List Char}
    (h : (yearText y).toList ++ '-' :: cs = (yearText z).toList ++ '-' :: bs) : y = z ∧ cs = bs := by
  have hsign : ∀ y, yearSign y = [] ∨ ∃ c, yearSign y = [c] ∧ c.isDigit = false := by
    intro y
    unfold yearSign
    split
    · exact .inl rfl
    · split
      · exact .inr ⟨'-', rfl, by decide⟩
      · exact .inr ⟨'+', rfl, by decide⟩
  have hdigits : ∀ n rest, ∃ d ds', fillTo 4 (digits n) ++ rest = d :: ds' ∧ d.isDigit := by
    intro n rest
    obtain ⟨d, ds, hds⟩ := List.exists_cons_of_ne_nil (fillTo_ne_nil 4 n)
    exact ⟨d, ds ++ rest, by rw [hds, List.cons_append],
      isDigit_of_mem_fillTo d (hds ▸ List.mem_cons_self)⟩
  rw [toList_yearText, toList_yearText, List.append_assoc, List.append_assoc] at h
  obtain ⟨hsigns, hrest⟩ := sign_append_inj (hsign y) (hsign z) (hdigits _ _) (hdigits _ _) h
  obtain ⟨hsame, -, htail⟩ := digits_append_inj isDigit_of_mem_fillTo isDigit_of_mem_fillTo
    (by decide) (by decide) hrest
  have habs := fillTo_injective hsame
  have hneg : y < 0 ↔ z < 0 := by
    rw [← yearSign_eq_minus_iff, hsigns, yearSign_eq_minus_iff]
  exact ⟨by omega, htail⟩

theorem toList_point (width n : Nat) :
    ("." ++ paddedText width n).toList = '.' :: fillTo width (digits n) := by
  simp [paddedText, String.toList_append]

/-- The part of a second is written behind a point with three, six or nine digits, unless it is
nothing. -/
theorem toList_fractionText {n : Nat} (hpositive : n ≠ 0) (hn : n < 1000000000) :
    ∃ width k, (fractionText n).toList = '.' :: fillTo width (digits k) ∧
      (fillTo width (digits k)).length = width ∧ n = k * 10 ^ (9 - width) ∧ width ≤ 9 := by
  rw [fractionText, if_neg hpositive]
  split
  · exact ⟨3, n / 1000000, toList_point .., length_fillTo (by decide) (by omega), by omega, by decide⟩
  · split
    · exact ⟨6, n / 1000, toList_point .., length_fillTo (by decide) (by omega), by omega, by decide⟩
    · exact ⟨9, n, toList_point .., length_fillTo (by decide) (by omega), by omega, by decide⟩

/-- Behind the seconds stands a point or the sign of the zone. -/
theorem exists_fractionText_append {n : Nat} (hn : n < 1000000000) (zone : List Char) :
    ∃ c cs, (fractionText n).toList ++ '+' :: zone = c :: cs ∧ c.isDigit = false := by
  by_cases hn0 : n = 0
  · exact ⟨'+', zone, by rw [hn0]; rfl, by decide⟩
  · obtain ⟨width, k, htext, -⟩ := toList_fractionText hn0 hn
    exact ⟨'.', _, by rw [htext, List.cons_append], by decide⟩

/-- The text of the part of a second, and the zone behind it, tell the part. -/
theorem fractionText_append_inj {m n : Nat} (hm : m < 1000000000) (hn : n < 1000000000)
    {zone : List Char}
    (h : (fractionText m).toList ++ '+' :: zone = (fractionText n).toList ++ '+' :: zone) :
    m = n := by
  have hzero : (fractionText 0).toList = [] := rfl
  by_cases hm0 : m = 0 <;> by_cases hn0 : n = 0
  · omega
  · obtain ⟨width, k, htext, -⟩ := toList_fractionText hn0 hn
    rw [hm0, hzero, htext] at h
    simp at h
  · obtain ⟨width, k, htext, -⟩ := toList_fractionText hm0 hm
    rw [hn0, hzero, htext] at h
    simp at h
  · obtain ⟨width, k, htext, hlength, rfl, -⟩ := toList_fractionText hm0 hm
    obtain ⟨width', k', htext', hlength', rfl, -⟩ := toList_fractionText hn0 hn
    rw [htext, htext'] at h
    obtain ⟨hsame, -⟩ := digits_append_inj isDigit_of_mem_fillTo isDigit_of_mem_fillTo
      (by decide) (by decide) (List.cons.inj h).2
    obtain rfl : width = width' := by rw [← hlength, hsame, hlength']
    rw [fillTo_injective hsame]

/-- The two digits of a part of a date or time, and what ends them, tell the part. -/
theorem part_append_inj {m n : Nat} {c b : Char} {cs bs : List Char} (hc : c.isDigit = false)
    (hb : b.isDigit = false)
    (h : fillTo 2 (digits m) ++ c :: cs = fillTo 2 (digits n) ++ b :: bs) :
    m = n ∧ c :: cs = b :: bs := by
  obtain ⟨hsame, rfl, rfl⟩ :=
    digits_append_inj isDigit_of_mem_fillTo isDigit_of_mem_fillTo hc hb h
  exact ⟨fillTo_injective hsame, rfl⟩

theorem toList_text (t : Instant) : t.text.toList =
    (yearText t.date.year).toList ++ '-' :: (fillTo 2 (digits t.date.month) ++ '-' ::
      (fillTo 2 (digits t.date.day) ++ 'T' :: (fillTo 2 (digits (t.secondOfDay / 3600)) ++ ':' ::
        (fillTo 2 (digits (t.secondOfDay / 60 % 60)) ++ ':' ::
          (fillTo 2 (digits (t.secondOfDay % 60 + if t.isLeap then 1 else 0)) ++
            ((fractionText (t.nanosecond - if t.isLeap then 1000000000 else 0)).toList ++
              '+' :: "00:00".toList)))))) := by
  simp [text, paddedText, String.toList_append]

/-- The nanoseconds of an instant since the second began that its text names. -/
theorem nanosecond_sub_lt (t : Instant) :
    t.nanosecond - (if t.isLeap then 1000000000 else 0) < 1000000000 := by
  have hlt := t.nanosecond_lt
  by_cases hleap : 1000000000 ≤ t.nanosecond
  · simp [isLeap, hleap]
    omega
  · simp [isLeap, hleap]
    omega

/-- A second of one instant runs on, within a minute, into the second of another one. -/
def RunsInto (t u : Instant) : Prop :=
  t.second % 60 ≠ 59 ∧ u.second = t.second + 1 ∧ t.nanosecond = u.nanosecond + 1000000000

/-- A second that runs on within a minute is no leap second. -/
theorem RunsInto.not_isRegular {t u : Instant} (h : t.RunsInto u) : ¬t.IsRegular := by
  obtain ⟨hsecond, -, hnanosecond⟩ := h
  unfold IsRegular
  omega

/-- Instants on one day whose seconds and nanoseconds are written alike. -/
theorem eq_or_runsInto {t u : Instant} (hday : t.second / 86400 = u.second / 86400)
    (hminute : t.secondOfDay / 60 = u.secondOfDay / 60)
    (hsecond : (t.secondOfDay % 60 + if t.isLeap then 1 else 0) =
      u.secondOfDay % 60 + if u.isLeap then 1 else 0)
    (hnanosecond : (t.nanosecond - if t.isLeap then 1000000000 else 0) =
      u.nanosecond - if u.isLeap then 1000000000 else 0) :
    t = u ∨ t.RunsInto u ∨ u.RunsInto t := by
  have heq : t.second = u.second → t.nanosecond = u.nanosecond → t = u := by
    intro hseconds hnanoseconds
    cases t
    cases u
    simp_all
  simp only [secondOfDay] at hminute hsecond
  by_cases ht : 1000000000 ≤ t.nanosecond <;> by_cases hu : 1000000000 ≤ u.nanosecond <;>
    simp only [isLeap, ht, hu, decide_true, decide_false, if_true, Bool.false_eq_true,
      if_false] at hsecond hnanosecond
  · exact .inl (heq (by omega) (by omega))
  · exact .inr (.inl ⟨by omega, by omega, by omega⟩)
  · exact .inr (.inr ⟨by omega, by omega, by omega⟩)
  · exact .inl (heq (by omega) (by omega))

/-- Instants that are written alike are the same, or a second of one runs into the other. -/
theorem text_inj {t u : Instant} (h : t.text = u.text) :
    t = u ∨ t.RunsInto u ∨ u.RunsInto t := by
  have h := congrArg String.toList h
  rw [toList_text, toList_text] at h
  obtain ⟨hyear, h⟩ := yearText_append_inj h
  obtain ⟨hmonth, h⟩ := part_append_inj (by decide) (by decide) h
  obtain ⟨hday, h⟩ := part_append_inj (by decide) (by decide) (List.cons.inj h).2
  obtain ⟨hhour, h⟩ := part_append_inj (by decide) (by decide) (List.cons.inj h).2
  obtain ⟨hminute, h⟩ := part_append_inj (by decide) (by decide) (List.cons.inj h).2
  have h := (List.cons.inj h).2
  obtain ⟨c, cs, hfraction, hc⟩ := exists_fractionText_append (nanosecond_sub_lt t) "00:00".toList
  obtain ⟨b, bs, hfraction', hb⟩ := exists_fractionText_append (nanosecond_sub_lt u) "00:00".toList
  rw [hfraction, hfraction'] at h
  obtain ⟨hsecond, h⟩ := part_append_inj hc hb h
  rw [← hfraction, ← hfraction'] at h
  have hnanosecond := fractionText_append_inj (nanosecond_sub_lt t) (nanosecond_sub_lt u) h
  have hdate : t.date = u.date := by
    cases ht : t.date
    cases hu : u.date
    simp_all
  have hdays : t.second / 86400 = u.second / 86400 := by
    have hnumber := congrArg Calendar.Date.dayNumber hdate
    rw [date, date, Calendar.dayNumber_ofDayNumber, Calendar.dayNumber_ofDayNumber] at hnumber
    omega
  have hminutes : t.secondOfDay / 60 = u.secondOfDay / 60 := by
    have hdiv := Nat.div_div_eq_div_mul t.secondOfDay 60 60
    have hdiv' := Nat.div_div_eq_div_mul u.secondOfDay 60 60
    omega
  exact eq_or_runsInto hdays hminutes hsecond hnanosecond

example : (⟨0, 1500000000, by decide⟩ : Instant).text = (⟨1, 500000000, by decide⟩ : Instant).text := by
  decide +kernel

/-- Instants of which no second runs on within a minute are the same if they are written alike. -/
theorem text_injective_of_isRegular {t u : Instant} (ht : t.IsRegular) (hu : u.IsRegular)
    (h : t.text = u.text) : t = u := by
  rcases text_inj h with htu | htu | htu
  · exact htu
  · exact absurd ht htu.not_isRegular
  · exact absurd hu htu.not_isRegular

end Instant

end RuleMatching
