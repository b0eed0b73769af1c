import Mathlib.Algebra.Order.Field.Power
import Mathlib.Data.Nat.Cast.Order.Field
import Mathlib.Data.Rat.Cast.Order
import Mathlib.Tactic.FieldSimp
import Mathlib.Tactic.Linarith
import Mathlib.Tactic.NormNum
import Mathlib.Tactic.Positivity
import RuleMatching.Binary64.Shortest
import RuleMatching.Proofs.Text.Numeral

/-!
The shortest decimal of a number and the interval of what rounds to it.  The intervals of two numbers
of different size are disjoint, `size_eq_of_holds`, and the shortest decimal of a number is in its
interval, `holds_shortest`: seventeen digits are always enough, and the search goes on for one more.
-/

set_option autoImplicit false
set_option relaxedAutoImplicit false

namespace RuleMatching.Binary64

/-- The rational number that a decimal stands for. -/
def Decimal.value (d : Decimal) : ℚ := d.digits * 10 ^ d.power

/-- The size of the unit in which the bounds of an interval are given. -/
def RoundingInterval.unit (r : RoundingInterval) : ℚ := r.num / r.den

/-! ### Powers as quotients -/

/-- A power with a whole exponent is a quotient of natural numbers of which one is one. -/
theorem power_eq_div (b : Nat) (p : Int) :
    ((if 0 ≤ p then Nat.pow b p.toNat else 1 : Nat) : ℚ) /
      (if 0 ≤ p then 1 else Nat.pow b (-p).toNat : Nat) = (b : ℚ) ^ p := by
  by_cases hp : 0 ≤ p
  · rw [if_pos hp, if_pos hp, Nat.pow_eq, Nat.cast_pow, Nat.cast_one, div_one, ← zpow_natCast,
      Int.toNat_of_nonneg hp]
  · rw [if_neg hp, if_neg hp, Nat.pow_eq, Nat.cast_pow, Nat.cast_one, ← zpow_natCast,
      Int.toNat_of_nonneg (by omega), zpow_neg, one_div, inv_inv]

theorem denominator_pos {b : Nat} (hb : 0 < b) (p : Int) :
    0 < if 0 ≤ p then 1 else Nat.pow b (-p).toNat := by
  split
  · decide
  · exact Nat.pow_pos hb

variable {r : RoundingInterval} {x y : Binary64}

/-- A quotient of natural numbers compared with a multiple of another. -/
theorem div_le_iff_cross {a n d m u w : Nat} (hd : 0 < d) (hw : 0 < w) :
    ((a : ℚ) * (n / d) ≤ m * (u / w) ↔ a * n * w ≤ m * u * d) ∧
      ((a : ℚ) * (n / d) < m * (u / w) ↔ a * n * w < m * u * d) := by
  have hd' : (0 : ℚ) < d := Nat.cast_pos.mpr hd
  have hw' : (0 : ℚ) < w := Nat.cast_pos.mpr hw
  rw [← mul_div_assoc, ← mul_div_assoc, div_le_div_iff₀ hd' hw', div_lt_div_iff₀ hd' hw']
  exact ⟨by exact_mod_cast Iff.rfl, by exact_mod_cast Iff.rfl⟩

/-- Whether a decimal lies in an interval, in terms of rational numbers. -/
theorem RoundingInterval.holds_iff (hden : 0 < r.den) (d : Decimal) : r.holds d = true ↔
    if r.closed then r.low * r.unit ≤ d.value ∧ d.value ≤ r.high * r.unit
    else r.low * r.unit < d.value ∧ d.value < r.high * r.unit := by
  have hdown := denominator_pos (b := 10) (by decide) d.power
  have hpower := power_eq_div 10 d.power
  rw [Nat.cast_ofNat] at hpower
  unfold holds
  simp only [Decimal.value, unit, ← hpower]
  generalize (if 0 ≤ d.power then Nat.pow 10 d.power.toNat else 1) = up
  revert hdown
  generalize (if 0 ≤ d.power then 1 else Nat.pow 10 (-d.power).toNat) = down
  intro hdown
  rw [(div_le_iff_cross hden hdown).1, (div_le_iff_cross hden hdown).2, (div_le_iff_cross hdown hden).1,
    (div_le_iff_cross hdown hden).2]
  cases r.closed <;> simp

theorem unit_roundingInterval (x : Binary64) :
    x.roundingInterval.unit = 2 ^ (x.exponent - 2) := by
  rw [RoundingInterval.unit, roundingInterval]
  exact power_eq_div 2 (x.exponent - 2)

theorem den_roundingInterval_pos (x : Binary64) : 0 < x.roundingInterval.den :=
  denominator_pos (by decide) _

/-! ### Intervals of different numbers -/

/-- The bits of a number without its sign: the greater they are, the greater is the number. -/
def size (x : Binary64) : Nat := x.bits.toNat % signUnit

theorem size_eq (x : Binary64) :
    x.size = x.exponentField * exponentUnit + x.fractionField ∧ x.fractionField < exponentUnit := by
  unfold size exponentField fractionField signUnit exponentUnit
  omega

/-- Numbers of one exponent are ordered by their significands. -/
theorem significand_lt (hsize : x.size < y.size) (hexponent : x.exponent = y.exponent) :
    x.significand < y.significand ∧ ¬(y.fractionField = 0 ∧ 1 < y.exponentField) := by
  have hx := size_eq x
  have hy := size_eq y
  unfold exponent at hexponent
  unfold significand
  unfold exponentUnit at *
  split at hexponent <;> split at hexponent <;> simp only [*, if_true, if_false] <;> omega

/-- A number of a lesser exponent has a lesser power of two, and a greatest significand. -/
theorem exponent_lt (hsize : x.size < y.size) (hexponent : x.exponent ≠ y.exponent) :
    x.exponent < y.exponent ∧ x.significand < 2 * exponentUnit ∧
      y.significand = y.fractionField + exponentUnit ∧ 1 < y.exponentField := by
  have hx := size_eq x
  have hy := size_eq y
  unfold exponent at hexponent ⊢
  unfold significand
  unfold exponentUnit at *
  split at hexponent <;> split at hexponent <;>
    simp only [*, if_true, if_false, true_and] <;> omega

/-- The interval of a number ends where that of a greater one begins, or before. -/
theorem high_le_low (hsize : x.size < y.size) :
    x.roundingInterval.high * x.roundingInterval.unit ≤
        y.roundingInterval.low * y.roundingInterval.unit ∧
      (x.roundingInterval.high * x.roundingInterval.unit =
          y.roundingInterval.low * y.roundingInterval.unit →
        ¬(x.roundingInterval.closed = true ∧ y.roundingInterval.closed = true)) := by
  have hhigh : x.roundingInterval.high = 4 * x.significand + 2 := rfl
  have hlow : y.roundingInterval.low =
      4 * y.significand - if y.fractionField = 0 ∧ 1 < y.exponentField then 1 else 2 := rfl
  have hclosed : ∀ z : Binary64, z.roundingInterval.closed = true ↔ z.significand % 2 = 0 := by
    intro z
    exact beq_iff_eq
  have hunit : (0 : ℚ) < x.roundingInterval.unit := by
    rw [unit_roundingInterval]
    positivity
  rw [hclosed, hclosed]
  by_cases hexponent : x.exponent = y.exponent
  · obtain ⟨hlt, hgap⟩ := significand_lt hsize hexponent
    have hunits : y.roundingInterval.unit = x.roundingInterval.unit := by
      rw [unit_roundingInterval, unit_roundingInterval, hexponent]
    rw [if_neg hgap] at hlow
    rw [hunits, mul_le_mul_iff_of_pos_right hunit, mul_left_inj' hunit.ne']
    have hle : x.roundingInterval.high ≤ y.roundingInterval.low := by omega
    refine ⟨by exact_mod_cast hle, fun heq => ?_⟩
    have heq : x.roundingInterval.high = y.roundingInterval.low := by exact_mod_cast heq
    omega
  · obtain ⟨hlt, hmx, hmy, hfield⟩ := exponent_lt hsize hexponent
    have hunits : 2 * x.roundingInterval.unit ≤ y.roundingInterval.unit := by
      rw [unit_roundingInterval, unit_roundingInterval, mul_comm, ← zpow_add_one₀ (by norm_num)]
      exact zpow_le_zpow_right₀ (by norm_num) (by omega)
    -- At the first number of a power of two the unit doubles, and the gap below is half as wide.
    obtain ⟨k, hk⟩ : ∃ k, k = 4 * exponentUnit - 1 := ⟨_, rfl⟩
    have hkhigh : x.roundingInterval.high ≤ 2 * k := by omega
    have hklow : k ≤ y.roundingInterval.low := by
      rw [hlow]
      split <;> omega
    have hhighq : (x.roundingInterval.high : ℚ) ≤ 2 * k := by exact_mod_cast hkhigh
    have hlowq : (k : ℚ) ≤ y.roundingInterval.low := by exact_mod_cast hklow
    have hfirst := mul_le_mul_of_nonneg_right hhighq hunit.le
    have hsecond : (k : ℚ) * (2 * x.roundingInterval.unit) ≤ k * y.roundingInterval.unit :=
      mul_le_mul_of_nonneg_left hunits (Nat.cast_nonneg k)
    have hthird : (k : ℚ) * y.roundingInterval.unit ≤
        y.roundingInterval.low * y.roundingInterval.unit :=
      mul_le_mul_of_nonneg_right hlowq (by linarith)
    refine ⟨by linarith, fun heq => ?_⟩
    have hends : (x.roundingInterval.high : ℚ) * x.roundingInterval.unit =
        2 * k * x.roundingInterval.unit := by linarith
    have hends : x.roundingInterval.high = 2 * k := by
      exact_mod_cast mul_right_cancel₀ hunit.ne' hends
    unfold exponentUnit at *
    omega

/-- The numbers that have a decimal in their intervals are of one size. -/
theorem size_eq_of_holds {d e : Decimal} (hx : x.roundingInterval.holds d = true)
    (hy : y.roundingInterval.holds e = true) (hvalue : d.value = e.value) : x.size = y.size := by
  have hlt : ∀ {x y : Binary64} {d e : Decimal}, x.roundingInterval.holds d = true →
      y.roundingInterval.holds e = true → d.value = e.value → ¬x.size < y.size := by
    intro x y d e hx hy hvalue hsize
    obtain ⟨hle, hopen⟩ := high_le_low hsize
    rw [RoundingInterval.holds_iff (den_roundingInterval_pos _)] at hx hy
    split at hx <;> split at hy
    · rename_i hcx hcy
      exact hopen (by linarith) ⟨hcx, hcy⟩
    all_goals linarith
  have hxy := hlt hx hy hvalue
  have hyx := hlt hy hx hvalue.symm
  omega

/-! ### The shortest decimal -/

theorem RoundingInterval.holds_of_gridPoint? {power : Int} {d : Decimal}
    (h : r.gridPoint? power = some d) : r.holds d = true := by
  unfold gridPoint? at h
  simp only at h
  split at h
  · cases h
  · rename_i hbelow _
    obtain rfl := Option.some.inj h
    exact hbelow
  · rename_i _ habove
    obtain rfl := Option.some.inj h
    exact habove
  · rename_i hbelow habove
    rcases ite_eq_iff.mp h with ⟨-, h⟩ | ⟨-, h⟩
    · obtain rfl := Option.some.inj h
      exact habove
    · obtain rfl := Option.some.inj h
      exact hbelow

/-- If the last grid that is searched has a point in the interval, then the point found is in it. -/
theorem RoundingInterval.holds_firstHit {k : Int} {fuel n : Nat}
    (h : (r.gridPoint? (k - (n + fuel : Nat))).isSome = true) : r.holds (r.firstHit k fuel n) = true := by
  induction fuel generalizing n with
  | zero =>
    obtain ⟨d, hd⟩ := Option.isSome_iff_exists.mp h
    rw [firstHit]
    rw [Nat.add_zero] at hd
    rw [hd]
    exact holds_of_gridPoint? hd
  | succ fuel ih =>
    rw [firstHit]
    split
    · rename_i d hd
      exact holds_of_gridPoint? hd
    · refine ih ?_
      rwa [Nat.add_right_comm, Nat.add_assoc]

/-- Enough tenfolds of a number reach another. -/
theorem le_mul_tenfolds {fuel num den : Nat} (h : den ≤ num * 10 ^ fuel) :
    den ≤ num * 10 ^ tenfolds fuel num den := by
  induction fuel generalizing num with
  | zero => simpa [tenfolds] using h
  | succ fuel ih =>
    rw [tenfolds]
    split
    · rwa [pow_zero, mul_one]
    · rw [pow_succ', ← mul_assoc] at h ⊢
      exact ih h

/-- A quotient is at least the power of ten that its decimal exponent is one more than. -/
theorem pow_decimalExponent_le {num den : Nat} (hden : 0 < den)
    (hfuel : den ≤ num * 10 ^ 400) : (10 : ℚ) ^ (decimalExponent num den - 1) ≤ num / den := by
  have hden' : (0 : ℚ) < den := Nat.cast_pos.mpr hden
  unfold decimalExponent
  split
  · rename_i hle
    have hpositive : 0 < num / den := Nat.div_pos hle hden
    have hne := Numeral.digits_ne_nil (num / den)
    obtain ⟨k, hk⟩ : ∃ k, (Numeral.digits (num / den)).length = k + 1 :=
      Nat.exists_eq_add_one.mpr (List.length_pos_iff.mpr hne)
    have hpow : 10 ^ k ≤ num / den := by
      rcases Nat.eq_zero_or_pos k with rfl | hkpos
      · exact hpositive
      · refine Nat.le_of_not_lt fun hlt => ?_
        have hlength := (Nat.length_toDigits_le_iff (by decide) hkpos).mpr hlt
        unfold Numeral.digits at hk
        omega
    rw [hk, Nat.cast_add, Nat.cast_one, add_sub_cancel_right, zpow_natCast]
    calc (10 : ℚ) ^ k = ((10 ^ k : Nat) : ℚ) := by push_cast; rfl
      _ ≤ ((num / den : Nat) : ℚ) := by exact_mod_cast hpow
      _ ≤ num / den := Nat.cast_div_le
  · have hreach := le_mul_tenfolds hfuel
    rw [sub_right_comm, sub_self, zero_sub, zpow_neg, zpow_natCast, le_div_iff₀ hden',
      inv_mul_le_iff₀ (by positivity), mul_comm]
    exact_mod_cast hreach

/-- A grid with steps below the gap over the number has a point in the interval. -/
theorem RoundingInterval.isSome_gridPoint? {power : Int} (hden : 0 < r.den)
    (hunit : 0 < r.unit) (hlow : r.low < r.value) (hhigh : r.high = r.value + 2)
    (hfine : (10 : ℚ) ^ power < 2 * r.unit) : (r.gridPoint? power).isSome = true := by
  have hpower := power_eq_div 10 power
  have hdown := denominator_pos (b := 10) (by decide) power
  rw [Nat.cast_ofNat] at hpower
  have habove : r.holds ⟨r.value * r.num * (if 0 ≤ power then 1 else Nat.pow 10 (-power).toNat) /
      ((if 0 ≤ power then Nat.pow 10 power.toNat else 1) * r.den) + 1, power⟩ = true := by
    rw [holds_iff hden]
    simp only [Decimal.value]
    revert hpower hdown
    generalize (if 0 ≤ power then Nat.pow 10 power.toNat else 1) = up
    generalize (if 0 ≤ power then 1 else Nat.pow 10 (-power).toNat) = down
    intro hpower hdown
    have hten : (0 : ℚ) < 10 ^ power := by positivity
    have hup : 0 < up := by
      refine Nat.pos_of_ne_zero ?_
      rintro rfl
      rw [Nat.cast_zero, zero_div] at hpower
      exact hten.ne hpower
    have hgrid : 0 < up * r.den := Nat.mul_pos hup hden
    have hgrid' : (0 : ℚ) < (up * r.den : Nat) := Nat.cast_pos.mpr hgrid
    have hvalue : ((r.value * r.num * down : Nat) : ℚ) / (up * r.den : Nat) * 10 ^ power =
        r.value * r.unit := by
      have hdown' : (down : ℚ) ≠ 0 := Nat.cast_ne_zero.mpr hdown.ne'
      have hup' : (up : ℚ) ≠ 0 := Nat.cast_ne_zero.mpr hup.ne'
      have hden' : (r.den : ℚ) ≠ 0 := Nat.cast_ne_zero.mpr hden.ne'
      rw [← hpower, unit]
      push_cast
      field_simp
    have hbelow : ((r.value * r.num * down / (up * r.den) : Nat) : ℚ) ≤
        ((r.value * r.num * down : Nat) : ℚ) / (up * r.den : Nat) := Nat.cast_div_le
    have habove : ((r.value * r.num * down : Nat) : ℚ) / (up * r.den : Nat) <
        (r.value * r.num * down / (up * r.den) : Nat) + 1 := by
      have hlt := (Nat.lt_mul_div_succ (r.value * r.num * down) hgrid).trans_eq (Nat.mul_comm _ _)
      rw [div_lt_iff₀ hgrid']
      exact_mod_cast hlt
    have hreach := mul_lt_mul_of_pos_right habove hten
    have hreach' := mul_le_mul_of_nonneg_right hbelow hten.le
    rw [hvalue] at hreach hreach'
    have hlow' : (r.low : ℚ) * r.unit < r.value * r.unit :=
      mul_lt_mul_of_pos_right (by exact_mod_cast hlow) hunit
    rw [hhigh]
    push_cast at hreach hreach' ⊢
    split <;> constructor <;> linarith
  unfold gridPoint?
  simp only [habove]
  split
  · simp_all
  · rfl
  · rfl
  · rw [apply_ite Option.isSome]
    exact ite_self _

theorem two_pow_le_ten_pow {k n : Nat} (hk : k ≤ 3 * n) : 2 ^ k ≤ 10 ^ n :=
  calc 2 ^ k ≤ 2 ^ (3 * n) := Nat.pow_le_pow_right (by decide) hk
    _ = (2 ^ 3) ^ n := Nat.pow_mul ..
    _ ≤ 10 ^ n := Nat.pow_le_pow_left (by decide) n

/-- Four hundred tenfolds of the least number reach one. -/
theorem le_tenfolds {x : Binary64} (hpositive : 0 < x.significand) :
    x.roundingInterval.den ≤ x.roundingInterval.value * x.roundingInterval.num * 10 ^ 400 := by
  have hvalue : 0 < x.roundingInterval.value := Nat.mul_pos (by decide) hpositive
  have hnum : 0 < x.roundingInterval.num := by
    change 0 < if 0 ≤ x.exponent - 2 then Nat.pow 2 (x.exponent - 2).toNat else 1
    split
    · exact Nat.pow_pos (by decide)
    · decide
  obtain ⟨k, hk, hden⟩ : ∃ k, k ≤ 3 * 400 ∧ x.roundingInterval.den ≤ 2 ^ k := by
    refine ⟨(-(x.exponent - 2)).toNat, ?_, ?_⟩
    · unfold exponent
      split <;> omega
    · change (if 0 ≤ x.exponent - 2 then 1 else Nat.pow 2 (-(x.exponent - 2)).toNat) ≤ _
      split
      · exact Nat.one_le_two_pow
      · exact le_rfl
  calc x.roundingInterval.den ≤ 2 ^ k := hden
    _ ≤ 10 ^ 400 := two_pow_le_ten_pow hk
    _ ≤ x.roundingInterval.value * x.roundingInterval.num * 10 ^ 400 :=
      Nat.le_mul_of_pos_left _ (Nat.mul_pos hvalue hnum)

/-- The shortest decimal of a finite number that is not zero lies in its interval. -/
theorem holds_shortest (x : Binary64) (hzero : x.isZero = false) :
    x.roundingInterval.holds x.shortest = true := by
  have hsize := size_eq x
  have hm : 0 < x.significand ∧ x.significand < 2 * exponentUnit := by
    have hpositive : x.size ≠ 0 := by simpa [isZero, size] using hzero
    unfold significand
    unfold exponentUnit at *
    split <;> simp_all <;> omega
  have hunit : (0 : ℚ) < x.roundingInterval.unit := by
    rw [unit_roundingInterval]
    positivity
  refine RoundingInterval.holds_firstHit
    (RoundingInterval.isSome_gridPoint? (den_roundingInterval_pos x) hunit ?_ rfl ?_)
  · change 4 * x.significand - _ < 4 * x.significand
    split <;> omega
  · have hexponent := pow_decimalExponent_le (den_roundingInterval_pos x) (le_tenfolds hm.1)
    have hvalue : ((x.roundingInterval.value * x.roundingInterval.num : Nat) : ℚ) /
        x.roundingInterval.den = 4 * x.significand * x.roundingInterval.unit := by
      rw [RoundingInterval.unit, ← mul_div_assoc, Nat.cast_mul]
      simp [roundingInterval]
    have hsignificand : (x.significand : ℚ) < 9007199254740992 := by
      have hlt : x.significand < 9007199254740992 := hm.2
      exact_mod_cast hlt
    have hten : (10 : ℚ) ^ (17 : Nat) * 10 ^ (decimalExponent
        (x.roundingInterval.value * x.roundingInterval.num) x.roundingInterval.den - (1 + 17 : Nat)) =
        10 ^ (decimalExponent (x.roundingInterval.value * x.roundingInterval.num)
          x.roundingInterval.den - 1) := by
      rw [← zpow_natCast, ← zpow_add₀ (by norm_num)]
      congr 1
      omega
    rw [hvalue, ← hten] at hexponent
    generalize decimalExponent _ _ - ((1 + 17 : Nat) : Int) = power at hexponent ⊢
    have hbound := mul_lt_mul_of_pos_right hsignificand hunit
    norm_num at hexponent
    linarith

end RuleMatching.Binary64
