import Mathlib.Tactic.SplitIfs
import RuleMatching.Json.Text
import RuleMatching.Json.Token
import RuleMatching.Proofs.Text.Numeral

/-!
The tokens of a JSON text.  A string and an integer are written so that the token at the front of the text is
that string or that integer, and what stands behind it is left over: `readString_escaped` and
`readNumber_integerText`.  Behind an integer there must not stand what would go on with it.
-/

set_option autoImplicit false
set_option relaxedAutoImplicit false

namespace RuleMatching

namespace Numeral

/-- A number other than zero does not start with a zero. -/
theorem head_digits_ne_zero {n : Nat} (hn : n ≠ 0) : (digits n).head? ≠ some '0' := by
  have hdigit : ∀ m < 10, m ≠ 0 → Nat.digitChar m ≠ '0' := by decide
  induction n using Nat.strongRecOn with
  | ind n ih =>
    by_cases hlt : n < 10
    · rw [digits, Nat.toDigits_of_lt_base hlt]
      intro h
      exact hdigit n hlt hn (Option.some.inj h)
    · have hhead := ih (n / 10) (by omega) (by omega)
      obtain ⟨d, ds, hdigits⟩ := List.exists_cons_of_ne_nil (digits_ne_nil (n / 10))
      rw [hdigits] at hhead
      rwa [digits, Nat.toDigits_of_base_le (by decide) (by omega), ← digits, hdigits]

/-- Further digits make no number smaller. -/
theorem le_ofDigitChars (ds : List Char) (n : Nat) : n ≤ Nat.ofDigitChars 10 ds n := by
  induction ds generalizing n with
  | nil => exact Nat.le_refl n
  | cons d ds ih =>
    rw [Nat.ofDigitChars_cons]
    exact Nat.le_trans (by omega) (ih _)

end Numeral

namespace Json

open Numeral

/-! ### Numbers -/

/-- What stands behind a number ends it: there is nothing, or a comma or a closing bracket first. -/
def Closes (rest : List Char) : Prop := ∀ c ∈ rest.head?, c = ',' ∨ c = ']' ∨ c = '\x7d'

theorem Closes.isDigit_eq_false {c : Char} {cs : List Char} (h : Closes (c :: cs)) :
    c.isDigit = false := by
  rcases h c rfl with rfl | rfl | rfl <;> decide

theorem Closes.takeWhile_isDigit {rest : List Char} (h : Closes rest) :
    rest.takeWhile Char.isDigit = [] := by
  cases rest with
  | nil => rfl
  | cons c cs => rw [List.takeWhile_cons, h.isDigit_eq_false, if_neg Bool.false_ne_true]

theorem Closes.dropWhile_isDigit {rest : List Char} (h : Closes rest) :
    rest.dropWhile Char.isDigit = rest := by
  cases rest with
  | nil => rfl
  | cons c cs => rw [List.dropWhile_cons, h.isDigit_eq_false, if_neg Bool.false_ne_true]

/-- Digits of a number that fits 64 bits are all gathered. -/
theorem gather_digits {ds rest : List Char} (hds : ∀ d ∈ ds, d.isDigit = true)
    (hrest : Closes rest) (significand taken : Nat)
    (hbound : Nat.ofDigitChars 10 ds significand < wordBound) :
    gather significand taken (ds ++ rest) =
      (Nat.ofDigitChars 10 ds significand, taken + ds.length, rest) := by
  induction ds generalizing significand taken with
  | nil =>
    cases rest with
    | nil => rfl
    | cons c cs => simp [gather, hrest.isDigit_eq_false]
  | cons d ds ih =>
    obtain ⟨hd, hds⟩ := List.forall_mem_cons.mp hds
    rw [Nat.ofDigitChars_cons] at hbound ⊢
    have hnext := Nat.lt_of_le_of_lt (le_ofDigitChars ds _) hbound
    have hcode : '0'.toNat = 48 := rfl
    rw [hcode] at hbound hnext ⊢
    rw [List.cons_append, gather, hd, Bool.true_and, decide_eq_true hnext, if_pos rfl,
      ih hds _ _ hbound, List.length_cons]
    congr 2
    omega

theorem readBehindWhole_of_closes {rest : List Char} (hrest : Closes rest) (negative : Bool)
    (n : Nat) : readBehindWhole negative n 0 rest = some (ofWhole negative n, rest) := by
  cases rest with
  | nil => rfl
  | cons c cs => rcases hrest c rfl with rfl | rfl | rfl <;> rfl

/-- The digits of a number that fits 64 bits are read as that number. -/
theorem readUnsigned_digits {n : Nat} (hn : n < wordBound) {rest : List Char}
    (hrest : Closes rest) (negative : Bool) :
    readUnsigned negative (digits n ++ rest) = some (ofWhole negative n, rest) := by
  by_cases hzero : n = 0
  · subst hzero
    cases rest with
    | nil => rfl
    | cons c cs =>
      have hdigits : digits 0 ++ c :: cs = '0' :: c :: cs := rfl
      rw [hdigits, readUnsigned, hrest.isDigit_eq_false, if_neg Bool.false_ne_true,
        readBehindWhole_of_closes hrest]
  · have hvalue : Nat.ofDigitChars 10 (digits n) 0 = n := valueOf_digits n
    have hgather := gather_digits (fun _ => isDigit_of_mem_digits) hrest 0 0 (hvalue.symm ▸ hn)
    have hhead := head_digits_ne_zero hzero
    obtain ⟨d, ds, hdigits⟩ := List.exists_cons_of_ne_nil (digits_ne_nil n)
    rw [hvalue] at hgather
    rw [hdigits] at hgather hhead ⊢
    rw [List.cons_append] at hgather ⊢
    rw [readUnsigned]
    · simp only [hgather, hrest.takeWhile_isDigit, hrest.dropWhile_isDigit, List.length_nil,
        readBehindWhole_of_closes hrest]
      simp
    · intro c r h
      exact hhead (congrArg List.head? h)

/-- An integer that fits 64 bits is read as itself. -/
theorem readNumber_integerText {i : Int} (hlow : -(integerBound : Int) ≤ i)
    (hhigh : i < (wordBound : Int)) {rest : List Char} (hrest : Closes rest) :
    readNumber ((integerText i).toList ++ rest) = some (int i, rest) := by
  rw [integerText]
  split
  · rename_i hnegative
    have habs : i.natAbs < wordBound := by
      simp only [integerBound, wordBound] at *
      omega
    have hwhole : ofWhole true i.natAbs = int i := by
      simp only [integerBound] at hlow
      rw [ofWhole, if_neg (by decide), if_neg (by simp only [integerBound]; omega)]
      congr 1
      omega
    simp only [String.toList_append, Numeral.text, String.toList_ofList]
    exact (readUnsigned_digits habs hrest true).trans (by rw [hwhole])
  · rename_i hnonneg
    obtain ⟨d, ds, hdigits⟩ := List.exists_cons_of_ne_nil (digits_ne_nil i.natAbs)
    have hd : d.isDigit = true := isDigit_of_mem_digits (hdigits ▸ List.mem_cons_self)
    have hread := @readUnsigned_digits i.natAbs (by omega) rest hrest false
    have hwhole : ofWhole false i.natAbs = int i := by
      rw [ofWhole, if_pos (by decide), Int.natAbs_of_nonneg (by omega)]
    rw [hwhole] at hread
    rw [Numeral.text, String.toList_ofList]
    rw [hdigits, List.cons_append] at hread ⊢
    rw [readNumber]
    · exact hread
    · rintro r h
      obtain ⟨rfl, -⟩ := List.cons.inj h
      exact absurd hd (by decide)

/-! ### Strings -/

/-- A control character is written with two zeros and the two digits of its code. -/
theorem fillTo_four_toDigits : ∀ n < 0x20, fillTo 4 (Nat.toDigits 16 n) =
    ['0', '0', Nat.digitChar (n / 16), Nat.digitChar (n % 16)] := by decide

/-- The four digits that a control character is written with stand for its code. -/
theorem hexUnit?_digitChar : ∀ n < 0x20,
    hexUnit? '0' '0' (Nat.digitChar (n / 16)) (Nat.digitChar (n % 16)) = some n := by decide

theorem readString_backslash {letter c : Char} (hletter : letter ≠ 'u')
    (h : escaped? letter = some c) (cs : List Char) :
    readString none ('\\' :: letter :: cs) =
      (readString none cs).map fun p => (c :: p.1, p.2) := by
  rw [readString]
  · rw [h]
    cases readString none cs <;> rfl
  · intro _ _ _ _ _ hu
    exact absurd hu hletter

theorem readString_code {c : Char} (hc : c.toNat < 0x20) (cs : List Char) :
    readString none ('\\' :: 'u' :: (fillTo 4 (Nat.toDigits 16 c.toNat) ++ cs)) =
      (readString none cs).map fun p => (c :: p.1, p.2) := by
  rw [fillTo_four_toDigits c.toNat hc, List.cons_append, List.cons_append, List.cons_append,
    List.cons_append, List.nil_append, readString, hexUnit?_digitChar c.toNat hc]
  have hlow : ¬(0xD800 ≤ c.toNat ∧ c.toNat ≤ 0xDBFF) := by omega
  have hhigh : ¬(0xDC00 ≤ c.toNat ∧ c.toNat ≤ 0xDFFF) := by omega
  simp only [Option.bind_eq_bind, Option.bind_some, hlow, hhigh, if_false, Char.ofNat_toNat]
  cases readString none cs <;> rfl

theorem readString_plain {c : Char} (hquote : c ≠ '\x22') (hbackslash : c ≠ '\\')
    (hc : ¬c.toNat < 0x20) (cs : List Char) :
    readString none (c :: cs) = (readString none cs).map fun p => (c :: p.1, p.2) := by
  rw [readString]
  · simp only [hquote, hbackslash, hc]
    cases readString none cs <;> rfl
  · intro _ _ _ _ _ h
    exact absurd h hbackslash
  · intro _ _ h
    exact absurd h hbackslash

/-- A character that is written is the one that is read. -/
theorem readString_escape (c : Char) (cs : List Char) :
    readString none (escape c ++ cs) =
      (readString none cs).map fun p => (c :: p.1, p.2) := by
  rw [escape]
  split_ifs with hquote hbackslash hnewline hreturn htab hcontrol
  · subst hquote
    exact readString_backslash (by decide) rfl cs
  · subst hbackslash
    exact readString_backslash (by decide) rfl cs
  · subst hnewline
    exact readString_backslash (by decide) rfl cs
  · subst hreturn
    exact readString_backslash (by decide) rfl cs
  · subst htab
    exact readString_backslash (by decide) rfl cs
  · exact readString_code hcontrol cs
  · exact readString_plain hquote hbackslash hcontrol cs

/-- A string is read up to the quotation mark behind it. -/
theorem readString_escaped (s rest : List Char) :
    readString none (s.flatMap escape ++ '\x22' :: rest) = some (s, rest) := by
  induction s with
  | nil => rfl
  | cons c cs ih => rw [List.flatMap_cons, List.append_assoc, readString_escape, ih, Option.map_some]

end Json

end RuleMatching
