import RuleMatching.Proofs.Binary64.Interval

/-!
Floating point numbers and their texts.  A text in positional notation tells the value of a decimal, and
the shortest decimal of a number tells the number, so numbers that are written alike are the same, or
both are none: `text_inj`.
-/

set_option autoImplicit false
set_option relaxedAutoImplicit false

namespace RuleMatching.Binary64

open Numeral

/-- What stands behind the digits of the whole part. -/
def behindPoint : List Char → List Char
  | [] => []
  | c :: cs => '.' :: c :: cs

/-- A text is what is left of it without the zeros at its end, and zeros. -/
theorem eq_stripped_append_zeros (cs : List Char) : ∃ k, cs =
    (cs.reverse.dropWhile (· = '0')).reverse ++ List.replicate k '0' := by
  have hzeros : (cs.reverse.takeWhile (· = '0')).reverse =
      List.replicate (cs.reverse.takeWhile (· = '0')).length '0' := by
    rw [List.eq_replicate_iff, List.length_reverse]
    refine ⟨rfl, fun c hc => ?_⟩
    simpa using (List.all_eq_true.mp List.all_takeWhile) c (List.mem_reverse.mp hc)
  refine ⟨(cs.reverse.takeWhile (· = '0')).length, ?_⟩
  rw [← hzeros, ← List.reverse_append, List.takeWhile_append_dropWhile, List.reverse_reverse]

/-- Zeros at the end, behind the point, do not change the value. -/
theorem fraction_append_zeros (cs : List Char) (k : Nat) :
    (valueOf (cs ++ List.replicate k '0') : ℚ) / 10 ^ (cs ++ List.replicate k '0').length =
      valueOf cs / 10 ^ cs.length := by
  rw [valueOf_append, valueOf_replicate_zero, List.length_append, List.length_replicate, Nat.add_zero,
    Nat.cast_mul, Nat.cast_pow, Nat.cast_ofNat, pow_add, mul_div_mul_right _ _ (by positivity)]

/-- Digits with a point in front of the last `places` of them, less the zeros at the end. -/
theorem value_around_point {cs whole behind : List Char} {places : Nat}
    (hdigits : ∀ c ∈ cs, c.isDigit = true) (hroom : places < cs.length)
    (hwhole : whole = cs.take (cs.length - places))
    (hbehind : behind = ((cs.drop (cs.length - places)).reverse.dropWhile (· = '0')).reverse) :
    (∀ c ∈ whole, c.isDigit = true) ∧ whole ≠ [] ∧ (∀ c ∈ behind, c.isDigit = true) ∧
      (valueOf cs : ℚ) / 10 ^ places = valueOf whole + valueOf behind / 10 ^ behind.length := by
  obtain ⟨k, hk⟩ := eq_stripped_append_zeros (cs.drop (cs.length - places))
  rw [← hbehind] at hk
  have hcs : cs = whole ++ (behind ++ List.replicate k '0') := by
    rw [hwhole, ← hk, List.take_append_drop]
  have hplaces : (behind ++ List.replicate k '0').length = places := by
    rw [← hk, List.length_drop]
    omega
  have hpower : (10 : ℚ) ^ places ≠ 0 := by positivity
  refine ⟨fun c hc => hdigits c ?_, ?_, fun c hc => hdigits c ?_, ?_⟩
  · rw [hcs]
    exact List.mem_append_left _ hc
  · rintro rfl
    rw [hcs, List.nil_append, hplaces] at hroom
    exact Nat.lt_irrefl _ hroom
  · rw [hcs]
    exact List.mem_append_right _ (List.mem_append_left _ hc)
  · rw [hcs, valueOf_append, ← fraction_append_zeros behind k, hplaces, Nat.cast_add, Nat.cast_mul,
      Nat.cast_pow, Nat.cast_ofNat, add_div, mul_div_cancel_right₀ _ hpower]

/-- A decimal is written with the digits of its whole part and those behind the point. -/
theorem Decimal.exists_text (d : Decimal) : ∃ whole behind : List Char,
    (∀ c ∈ whole, c.isDigit = true) ∧ whole ≠ [] ∧ (∀ c ∈ behind, c.isDigit = true) ∧
      d.text.toList = whole ++ behindPoint behind ∧
      d.value = valueOf whole + valueOf behind / 10 ^ behind.length := by
  by_cases hpower : 0 ≤ d.power
  · refine ⟨Numeral.digits d.digits ++ List.replicate d.power.toNat '0', [], ?_,
      by simp [digits_ne_nil], by simp, by simp [text, hpower, behindPoint], ?_⟩
    · intro c hc
      rcases List.mem_append.mp hc with hc | hc
      · exact isDigit_of_mem_digits hc
      · rw [List.eq_of_mem_replicate hc]
        decide
    · obtain ⟨n, hn⟩ := Int.eq_ofNat_of_zero_le hpower
      rw [value, valueOf_append, valueOf_replicate_zero, valueOf_digits, List.length_replicate, hn]
      simp [valueOf]
  · obtain ⟨places, hplaces⟩ := Int.exists_eq_neg_ofNat (le_of_not_ge hpower)
    have hroom : places < (fillTo (places + 1) (Numeral.digits d.digits)).length := by
      rw [fillTo, List.length_append, List.length_replicate]
      omega
    obtain ⟨hwhole, hne, hbehind, hvalue⟩ :=
      value_around_point isDigit_of_mem_fillTo hroom rfl rfl
    refine ⟨_, _, hwhole, hne, hbehind, ?_, ?_⟩
    · rw [text, if_neg hpower]
      simp only [hplaces, neg_neg, Int.toNat_natCast, fillTo]
      generalize (List.dropWhile _ _).reverse = behind
      cases behind <;> simp [behindPoint]
    · rw [← hvalue, valueOf_fillTo, value, hplaces, zpow_neg, zpow_natCast, div_eq_mul_inv]

/-- Decimals that are written alike have the same value. -/
theorem Decimal.value_eq_of_text_eq {d e : Decimal} (h : d.text = e.text) : d.value = e.value := by
  obtain ⟨whole, behind, hwhole, -, -, htext, hvalue⟩ := d.exists_text
  obtain ⟨whole', behind', hwhole', -, -, htext', hvalue'⟩ := e.exists_text
  rw [h, htext'] at htext
  have hpoint : ∀ {whole whole' : List Char} {c : Char} {cs : List Char},
      (∀ c ∈ whole, c.isDigit = true) → whole ≠ whole' ++ '.' :: c :: cs := by
    rintro whole whole' c cs hdigits rfl
    exact absurd (hdigits '.' (by simp)) (by decide)
  have hsame : whole = whole' ∧ behind = behind' := by
    cases behind with
    | nil =>
      cases behind' with
      | nil => simpa [behindPoint] using htext.symm
      | cons c cs => exact absurd (by simpa [behindPoint] using htext.symm) (hpoint hwhole)
    | cons c cs =>
      cases behind' with
      | nil => exact absurd (by simpa [behindPoint] using htext) (hpoint hwhole')
      | cons c' cs' =>
        obtain ⟨rfl, -, hrest⟩ := digits_append_inj hwhole hwhole' (by decide) (by decide) htext.symm
        exact ⟨rfl, hrest⟩
  rw [hvalue, hvalue', hsame.1, hsame.2]

/-- A number without its sign, written. -/
def sizeText (x : Binary64) : String :=
  if x.isInfinite then "inf" else if x.isZero then "0" else x.shortest.text

theorem text_eq_sizeText {x : Binary64} (h : x.isNaN = false) :
    x.text = if x.isNegative then "-" ++ x.sizeText else x.sizeText := by
  rw [text, h, if_neg Bool.false_ne_true]
  rfl

/-- The size of a finite number is written as a decimal of its interval. -/
theorem exists_decimal {x : Binary64} (h : x.isInfinite = false) :
    ∃ d : Decimal, x.sizeText = d.text ∧ x.roundingInterval.holds d = true := by
  rw [sizeText, h, if_neg Bool.false_ne_true]
  cases hzero : x.isZero with
  | false => exact ⟨x.shortest, rfl, holds_shortest x hzero⟩
  | true =>
    have hsize : x.size = 0 := beq_iff_eq.mp hzero
    obtain ⟨hfields, -⟩ := size_eq x
    have hfraction : x.fractionField = 0 := by omega
    have hexponent : x.exponentField = 0 := by
      unfold exponentUnit at hfields
      omega
    refine ⟨⟨0, 0⟩, ?_, ?_⟩
    · rw [if_pos rfl]
      decide +kernel
    · have hsignificand : x.significand = 0 := by rw [significand, if_pos hexponent, hfraction]
      simp [RoundingInterval.holds, roundingInterval, hsignificand]

/-- The size of an infinity starts with a letter, and that of any other number with a digit. -/
theorem head_sizeText (x : Binary64) : ∃ c cs, x.sizeText.toList = c :: cs ∧
    if x.isInfinite then c = 'i' else c.isDigit = true := by
  cases h : x.isInfinite with
  | true => exact ⟨'i', ['n', 'f'], by rw [sizeText, h, if_pos rfl]; rfl, rfl⟩
  | false =>
    obtain ⟨d, htext, -⟩ := exists_decimal h
    obtain ⟨whole, behind, hdigits, hne, -, hd, -⟩ := d.exists_text
    obtain ⟨c, cs, rfl⟩ := List.exists_cons_of_ne_nil hne
    exact ⟨c, cs ++ behindPoint behind, by rw [htext, hd, List.cons_append],
      hdigits c List.mem_cons_self⟩

/-- Numbers whose sizes are written alike are of one size. -/
theorem size_eq_of_sizeText_eq {x y : Binary64} (h : x.sizeText = y.sizeText) : x.size = y.size := by
  obtain ⟨c, cs, hx, hc⟩ := head_sizeText x
  obtain ⟨c', cs', hy, hc'⟩ := head_sizeText y
  have hcs := congrArg String.toList h
  rw [hx, hy] at hcs
  obtain ⟨rfl, -⟩ := List.cons.inj hcs
  cases hinf : x.isInfinite <;> cases hinf' : y.isInfinite <;>
    simp only [hinf, hinf', if_true, Bool.false_eq_true, if_false] at hc hc'
  · obtain ⟨d, htext, hd⟩ := exists_decimal hinf
    obtain ⟨e, htext', he⟩ := exists_decimal hinf'
    exact size_eq_of_holds hd he (Decimal.value_eq_of_text_eq (by rw [← htext, h, htext']))
  · exact absurd hc (by rw [hc']; decide)
  · exact absurd hc' (by rw [hc]; decide)
  · simp only [isInfinite, Bool.and_eq_true, beq_iff_eq] at hinf hinf'
    rw [(size_eq x).1, (size_eq y).1, hinf.1, hinf.2, hinf'.1, hinf'.2]

/-- The bits of a number are those of its size and its sign. -/
theorem eq_of_size {x y : Binary64} (hsize : x.size = y.size)
    (hsign : x.isNegative = y.isNegative) : x = y := by
  have hx := UInt64.toNat_lt x.bits
  have hy := UInt64.toNat_lt y.bits
  have hsign : signUnit ≤ x.bits.toNat ↔ signUnit ≤ y.bits.toNat := decide_eq_decide.mp hsign
  have hbits : x.bits.toNat = y.bits.toNat := by
    unfold size at hsize
    unfold signUnit at hsize hsign
    omega
  cases x
  cases y
  rw [mk.injEq]
  exact UInt64.toNat_inj.mp hbits

/-- Only what is written with a sign starts with one, and only what is no number with a capital. -/
theorem head_text (x : Binary64) : ∃ c cs, x.text.toList = c :: cs ∧
    (c = 'N' ↔ x.isNaN = true) ∧ (c = '-' ↔ x.isNaN = false ∧ x.isNegative = true) := by
  cases h : x.isNaN with
  | true => exact ⟨'N', ['a', 'N'], by rw [text, h, if_pos rfl]; rfl, by simp, by simp⟩
  | false =>
    rw [text_eq_sizeText h]
    cases x.isNegative with
    | true => exact ⟨'-', x.sizeText.toList, by simp, by simp, by simp⟩
    | false =>
      obtain ⟨c, cs, hcs, hc⟩ := head_sizeText x
      have hplain : c ≠ 'N' ∧ c ≠ '-' := by
        split at hc
        · exact ⟨by simp [hc], by simp [hc]⟩
        · constructor <;> rintro rfl <;> exact absurd hc (by decide)
      exact ⟨c, cs, by simpa using hcs, by simp [hplain.1], by simp [hplain.2]⟩

/-- Numbers that are written alike are the same, or both are none. -/
theorem text_inj {x y : Binary64} (h : x.text = y.text) : x = y ∨ x.isNaN = true ∧ y.isNaN = true := by
  obtain ⟨c, cs, hx, hnan, hsign⟩ := head_text x
  obtain ⟨c', cs', hy, hnan', hsign'⟩ := head_text y
  have hcs := congrArg String.toList h
  rw [hx, hy] at hcs
  obtain ⟨rfl, -⟩ := List.cons.inj hcs
  have hnans := hnan.symm.trans hnan'
  have hsigns := hsign.symm.trans hsign'
  cases hxnan : x.isNaN with
  | true => exact .inr ⟨rfl, hnans.mp hxnan⟩
  | false =>
    have hynan : y.isNaN = false := Bool.eq_false_iff.mpr fun hynan =>
      Bool.false_ne_true (hxnan.symm.trans (hnans.mpr hynan))
    simp only [hxnan, hynan, true_and] at hsigns
    have hsign := Bool.eq_iff_iff.mpr hsigns
    refine .inl (eq_of_size (size_eq_of_sizeText_eq ?_) hsign)
    rw [text_eq_sizeText hxnan, text_eq_sizeText hynan, hsign] at h
    split at h
    · exact (String.append_right_inj _).mp h
    · exact h

end RuleMatching.Binary64
