import Mathlib.Data.List.TakeWhile
import Mathlib.Tactic.ByContra
import RuleMatching.Text.Blank

/-!
Blanks and words.  A text without blanks is a single word, `words_of_not_blank`, and a blank cuts a text
in two, so that the words on both sides of it are the words of the whole: `words_append`.
-/

set_option autoImplicit false
set_option relaxedAutoImplicit false

namespace RuleMatching.Text

theorem isBlank_of_isDigit {c : Char} (h : c.isDigit = true) : isBlank c = false := by
  obtain ⟨hzero, hnine⟩ := Char.isDigit_iff_toNat.mp h
  have hzero : 48 ≤ c.toNat := hzero
  have hnine : c.toNat ≤ 57 := hnine
  simp only [isBlank, Bool.or_eq_false_iff, Bool.and_eq_false_iff, decide_eq_false_iff_not,
    beq_eq_false_iff_ne]
  omega

/-- Trimming leaves nothing of a text just if all of it is blank. -/
theorem trim_eq_nil_iff {cs : List Char} : trim cs = [] ↔ ∀ c ∈ cs, isBlank c = true := by
  rw [trim, trimEnd, List.reverse_eq_nil_iff, List.dropWhile_eq_nil_iff]
  simp only [List.mem_reverse, trimStart]
  constructor
  · intro h
    have hnil : cs.dropWhile isBlank = [] := by
      by_contra hne
      have hhead := List.head_dropWhile_not isBlank hne
      rw [h _ (List.head_mem hne)] at hhead
      exact absurd hhead (by decide)
    exact List.dropWhile_eq_nil_iff.mp hnil
  · intro h c hc
    exact h c ((List.dropWhile_sublist _).mem hc)

theorem words_cons_blank {b : Char} (hb : isBlank b = true) (cs : List Char) :
    words (b :: cs) = words cs := by
  cases cs with
  | nil => simp [words, hb]
  | cons c cs => rw [words, if_pos hb]

/-- A text without blanks is one word, unless it is empty. -/
theorem words_of_not_blank {w : List Char} (hne : w ≠ []) (hw : ∀ c ∈ w, isBlank c = false) :
    words w = [w] := by
  induction w with
  | nil => exact absurd rfl hne
  | cons c w ih =>
    have hc : isBlank c = false := hw c List.mem_cons_self
    cases w with
    | nil => simp [words, hc]
    | cons d w =>
      have hd : isBlank d = false := hw d (by simp)
      have hrest := ih (by simp) fun e he => hw e (List.mem_cons_of_mem c he)
      rw [words, if_neg (by simp [hc]), if_neg (by simp [hd]), hrest, consWord]

theorem words_cons_ne_nil {c : Char} (hc : isBlank c = false) (cs : List Char) :
    words (c :: cs) ≠ [] := by
  cases cs with
  | nil => simp [words, hc]
  | cons d cs =>
    rw [words, if_neg (by simp [hc])]
    split
    · simp
    · cases words (d :: cs) <;> simp [consWord]

theorem consWord_append (c : Char) {ws : List (List Char)} (hne : ws ≠ []) (vs : List (List Char)) :
    consWord c (ws ++ vs) = consWord c ws ++ vs := by
  cases ws with
  | nil => exact absurd rfl hne
  | cons w ws => rfl

/-- The words on both sides of a blank are those of the whole text. -/
theorem words_append {b : Char} (hb : isBlank b = true) (cs ds : List Char) :
    words (cs ++ b :: ds) = words cs ++ words ds := by
  induction cs using words.induct with
  | case1 => exact words_cons_blank hb ds
  | case2 c hc => simp [words, hc, words_cons_blank hb]
  | case3 c hc => simp [words, hc, hb, words_cons_blank hb]
  | case4 c d cs hc ih => simpa [words, hc] using ih
  | case5 c d cs hc hd ih => simpa [words, hc, hd] using ih
  | case6 c d cs hc hd ih =>
    have hne : words (d :: cs) ≠ [] := words_cons_ne_nil (by simpa using hd) cs
    rw [List.cons_append] at ih
    rw [List.cons_append, List.cons_append, words, if_neg hc, if_neg hd, ih, words, if_neg hc,
      if_neg hd, consWord_append c hne]

/-- A blank ends the word before it. -/
theorem words_append_blank {w : List Char} (hne : w ≠ []) (hw : ∀ c ∈ w, isBlank c = false)
    {b : Char} (hb : isBlank b = true) (rest : List Char) :
    words (w ++ b :: rest) = w :: words rest := by
  rw [words_append hb, words_of_not_blank hne hw, List.singleton_append]

end RuleMatching.Text
