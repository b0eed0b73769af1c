import Mathlib.Algebra.Group.Nat.Defs
import RuleMatching.Text.Numeral

/-!
Digits that are filled up with zeros, and numbers with a sign.  Zeros in front do not change the number,
so numbers that are written alike are the same; and what is written behind digits can be told from them,
if it starts with another character: `fillTo_injective`, `digits_append_inj`, `integerText_injective`.
What reads as an index is digits, with or without a plus sign: `index?_eq_some_iff`.
-/

set_option autoImplicit false
set_option relaxedAutoImplicit false

namespace RuleMatching.Numeral

/-- The number that digits stand for. -/
abbrev valueOf (cs : List Char) : Nat := Nat.ofDigitChars 10 cs 0

theorem valueOf_digits (n : Nat) : valueOf (digits n) = n :=
  Nat.ofDigitChars_toDigits (by decide) (by decide)

theorem valueOf_append (cs ds : List Char) :
    valueOf (cs ++ ds) = valueOf cs * 10 ^ ds.length + valueOf ds := by
  rw [valueOf, Nat.ofDigitChars_append, Nat.ofDigitChars_eq_ofDigitChars_zero, Nat.mul_comm]

theorem valueOf_replicate_zero (k : Nat) : valueOf (List.replicate k '0') = 0 := by
  induction k with
  | zero => rfl
  | succ k ih =>
    rw [List.replicate_succ, valueOf, Nat.ofDigitChars_cons]
    exact ih

theorem valueOf_fillTo (width n : Nat) : valueOf (fillTo width (digits n)) = n := by
  rw [fillTo, valueOf_append, valueOf_replicate_zero, valueOf_digits, Nat.zero_mul, Nat.zero_add]

theorem fillTo_injective {width m n : Nat}
    (h : fillTo width (digits m) = fillTo width (digits n)) : m = n := by
  rw [← valueOf_fillTo width m, h, valueOf_fillTo]

theorem isDigit_of_mem_fillTo {width n : Nat} :
    ∀ c ∈ fillTo width (digits n), c.isDigit = true := by
  intro c hc
  rcases List.mem_append.mp hc with hc | hc
  · rw [List.eq_of_mem_replicate hc]
    decide
  · exact isDigit_of_mem_digits hc

theorem fillTo_ne_nil (width n : Nat) : fillTo width (digits n) ≠ [] := by
  simp [fillTo, digits_ne_nil]

/-- A number that has no more digits than there is room for fills the room. -/
theorem length_fillTo {width n : Nat} (hwidth : 0 < width) (h : n < 10 ^ width) :
    (fillTo width (digits n)).length = width := by
  have hlength : (digits n).length ≤ width := (Nat.length_toDigits_le_iff (by decide) hwidth).mpr h
  rw [fillTo, List.length_append, List.length_replicate]
  omega

/-- Digits end where another character stands. -/
theorem digits_append_inj {ds es cs bs : List Char} {c b : Char}
    (hds : ∀ d ∈ ds, d.isDigit = true) (hes : ∀ e ∈ es, e.isDigit = true)
    (hc : c.isDigit = false) (hb : b.isDigit = false) (h : ds ++ c :: cs = es ++ b :: bs) :
    ds = es ∧ c = b ∧ cs = bs := by
  induction ds generalizing es with
  | nil =>
    cases es with
    | nil => simpa using h
    | cons e es =>
      obtain ⟨rfl, -⟩ := List.cons.inj h
      simp [hc] at hes
  | cons d ds ih =>
    obtain ⟨hd, hds⟩ := List.forall_mem_cons.mp hds
    cases es with
    | nil =>
      obtain ⟨rfl, -⟩ := List.cons.inj h
      simp [hb] at hd
    | cons e es =>
      obtain ⟨rfl, hrest⟩ := List.cons.inj h
      obtain ⟨rfl, hsame⟩ := ih hds (List.forall_mem_cons.mp hes).2 hrest
      exact ⟨rfl, hsame⟩

theorem integerText_injective {i j : Int} (h : integerText i = integerText j) : i = j := by
  have hhead : ∀ n : Nat, ∃ c cs, (text n).toList = c :: cs ∧ c.isDigit = true := by
    intro n
    rw [text, String.toList_ofList]
    obtain ⟨c, cs, hdigits⟩ := List.exists_cons_of_ne_nil (digits_ne_nil n)
    exact ⟨c, cs, hdigits, isDigit_of_mem_digits (hdigits ▸ List.mem_cons_self)⟩
  have hsign : ∀ m n : Nat, "-" ++ text m ≠ text n := by
    intro m n heq
    obtain ⟨c, cs, hcs, hc⟩ := hhead n
    have hlist := congrArg String.toList heq
    rw [String.toList_append, hcs] at hlist
    obtain ⟨rfl, -⟩ := List.cons.inj hlist
    exact absurd hc (by decide)
  unfold integerText at h
  split at h <;> split at h
  · have habs := text_injective (String.append_right_inj _ |>.mp h)
    omega
  · exact absurd h (hsign _ _)
  · exact absurd h.symm (hsign _ _)
  · have habs := text_injective h
    omega

/-- A text stands for an index: it is digits, perhaps behind a plus sign, of a number that fits
64 bits.  Zeros in front are allowed. -/
def IsIndex (s : String) (n : Nat) : Prop :=
  ∃ ds : List Char, (s.toList = ds ∨ s.toList = '+' :: ds) ∧ ds ≠ [] ∧
    (∀ d ∈ ds, d.isDigit = true) ∧ valueOf ds = n ∧ n < wordBound

theorem digits?_eq_some_iff {cs : List Char} {n : Nat} :
    digits? cs = some n ↔ cs ≠ [] ∧ (∀ d ∈ cs, d.isDigit = true) ∧ valueOf cs = n := by
  rw [digits?, Option.ite_none_right_eq_some, Option.some.injEq, Bool.and_eq_true, and_assoc]
  simp

/-- A text is read as the index that it stands for. -/
theorem index?_eq_some_iff {s : String} {n : Nat} : index? s = some n ↔ IsIndex s n := by
  have hplus : Char.isDigit '+' = false := by decide
  have hbody : ∀ cs, (digits? cs).filter (· < wordBound) = some n ↔
      cs ≠ [] ∧ (∀ d ∈ cs, d.isDigit = true) ∧ valueOf cs = n ∧ n < wordBound := by
    intro cs
    rw [Option.filter_eq_some_iff, digits?_eq_some_iff, decide_eq_true_eq, and_assoc, and_assoc]
  by_cases hsign : ∃ r, s.toList = '+' :: r
  · obtain ⟨r, hr⟩ := hsign
    have hread : index? s = (digits? r).filter (· < wordBound) := by rw [index?, hr, unsigned?]
    rw [hread, hbody, IsIndex, hr]
    constructor
    · exact fun h => ⟨r, .inr rfl, h⟩
    · rintro ⟨ds, rfl | hds, h⟩
      · -- Digits have no plus sign among them.
        simp [hplus] at h
      · exact (List.cons.inj hds).2 ▸ h
  · have hunsigned : ∀ r, s.toList ≠ '+' :: r := fun r hr => hsign ⟨r, hr⟩
    have hread : index? s = (digits? s.toList).filter (· < wordBound) := by
      rw [index?, unsigned?]
      exact hunsigned
    rw [hread, hbody, IsIndex]
    constructor
    · exact fun h => ⟨s.toList, .inl rfl, h⟩
    · rintro ⟨ds, rfl | hds, h⟩
      · exact h
      · exact absurd hds (hunsigned ds)

end RuleMatching.Numeral
