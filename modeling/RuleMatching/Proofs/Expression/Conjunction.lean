import RuleMatching.Proofs.Expression.Reading
import RuleMatching.Proofs.Text.Words
import RuleMatching.Text.Pieces

/-!
Conjunctions of labels.  Labels with AND between them are read as the chain that joins them from left
to right: `read_joinWith_and`.
-/

set_option autoImplicit false
set_option relaxedAutoImplicit false

namespace RuleMatching

namespace Expression

/-- An expression joined to further labels by AND. -/
def conjunction (first : Expression) (labels : List String) : Expression :=
  labels.foldl (fun e l => .join e .and (.operand l)) first

@[simp] theorem conjunction_nil (first : Expression) : conjunction first [] = first := rfl

@[simp] theorem conjunction_cons (first : Expression) (l : String) (labels : List String) :
    conjunction first (l :: labels) = conjunction (.join first .and (.operand l)) labels := rfl

theorem lexemes_conjunction (first : Expression) (labels : List String) :
    (conjunction first labels).lexemes =
      first.lexemes ++ labels.flatMap fun l => [.word BoolOperator.and.name, .word l] := by
  induction labels generalizing first with
  | nil => simp
  | cons l labels ih =>
    rw [conjunction_cons, ih]
    simp [lexemes]

theorem ofName?_of_isLabel {l : String} (h : IsLabel l) : BoolOperator.ofName? l = none := by
  rw [Option.eq_none_iff_forall_ne_some]
  intro o ho
  exact h.2.2 o (BoolOperator.ofName?_eq_some_iff.mp ho)

theorem grammatical_conjunction {first : Expression} (hfirst : first.Grammatical)
    {labels : List String} (hlabels : ∀ l ∈ labels, IsLabel l) :
    (conjunction first labels).Grammatical := by
  induction labels generalizing first with
  | nil => exact hfirst
  | cons l labels ih =>
    have hl := ofName?_of_isLabel (hlabels l List.mem_cons_self)
    exact ih ⟨by decide, rfl, hfirst, hl⟩ fun k hk => hlabels k (List.mem_cons_of_mem l hk)

theorem nesting_conjunction (first : Expression) (labels : List String) :
    (conjunction first labels).nesting = first.nesting := by
  induction labels generalizing first with
  | nil => rfl
  | cons l labels ih =>
    rw [conjunction_cons, ih]
    simp [nesting]

/-- A word without parentheses spells itself. -/
theorem Spelled.word {w : String} (hne : w ≠ "") (hw : ∀ c ∈ w.toList, c ≠ '(' ∧ c ≠ ')')
    {ws : List (List Char)} {ls : List Lexeme} (h : Spelled ws ls) :
    Spelled (w.toList :: ws) (.word w :: ls) := by
  have hcons : Spelled (wrapped 0 w.toList 0 :: ws) (wrappedLexemes 0 w.toList 0 ++ ls) :=
    .cons hw (by simp) h
  have hword : wrapped 0 w.toList 0 = w.toList := by simp [wrapped]
  have hlexemes : wrappedLexemes 0 w.toList 0 = [.word w] := by
    cases hcs : w.toList with
    | nil => exact absurd (String.toList_eq_nil_iff.mp hcs) hne
    | cons c cs => simp [wrappedLexemes, coreLexemes, ← hcs]
  rwa [hword, hlexemes] at hcons

/-- The words of labels with AND between them. -/
theorem spelled_joinWith_and {l : String} {labels : List String}
    (hlabels : ∀ k ∈ l :: labels, IsLabel k) :
    Spelled (Text.words (Text.joinWith " AND " (l :: labels)).toList)
      (.word l :: labels.flatMap fun k => [.word BoolOperator.and.name, .word k]) := by
  induction labels generalizing l with
  | nil =>
    obtain ⟨hne, hchars, -⟩ := hlabels l List.mem_cons_self
    rw [Text.joinWith, Text.words_of_not_blank (by simpa using hne) fun c hc => (hchars c hc).1]
    exact .word hne (fun c hc => (hchars c hc).2) .nil
  | cons k labels ih =>
    obtain ⟨hne, hchars, -⟩ := hlabels l List.mem_cons_self
    have hrest := ih fun j hj => hlabels j (List.mem_cons_of_mem l hj)
    have htext : (Text.joinWith " AND " (l :: k :: labels)).toList =
        l.toList ++ ' ' :: (BoolOperator.and.name.toList ++
          ' ' :: (Text.joinWith " AND " (k :: labels)).toList) := by
      simp [Text.joinWith, BoolOperator.name]
    have hblank : ∀ c ∈ BoolOperator.and.name.toList, Text.isBlank c = false := by
      simp [BoolOperator.name, Text.isBlank]
    have hparts : ∀ c ∈ BoolOperator.and.name.toList, c ≠ '(' ∧ c ≠ ')' := by
      simp [BoolOperator.name]
    rw [htext, Text.words_append_blank (by simpa using hne) (fun c hc => (hchars c hc).1) (by decide),
      Text.words_append_blank (by decide) hblank (by decide)]
    exact .word hne (fun c hc => (hchars c hc).2) (.word (by decide) hparts hrest)

/-- Labels with AND between them are read as their conjunction. -/
theorem read_joinWith_and {l : String} {labels : List String}
    (hlabels : ∀ k ∈ l :: labels, IsLabel k) :
    read (Text.joinWith " AND " (l :: labels)) = .ok (conjunction (.operand l) labels) := by
  have hfirst : (operand l).Grammatical := ofName?_of_isLabel (hlabels l List.mem_cons_self)
  refine read_eq_ok_iff.mpr ⟨?_, ?_, ?_⟩
  · rw [lexemes_conjunction]
    exact spelled_joinWith_and hlabels
  · exact grammatical_conjunction hfirst fun k hk => hlabels k (List.mem_cons_of_mem l hk)
  · rw [nesting_conjunction]
    exact Nat.zero_le _

end Expression

end RuleMatching
