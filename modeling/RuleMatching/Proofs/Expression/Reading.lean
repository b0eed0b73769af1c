import Mathlib.Logic.Function.Iterate
import RuleMatching.Proofs.Expression.Lexing
import RuleMatching.Proofs.Expression.Tree

/-!
Reading texts as expressions.  A text is read as a tree if and only if its words spell the lexemes
of the tree, the grammar allows the tree, and it is not nested too deeply: `read_tree_iff`.
-/

set_option autoImplicit false
set_option relaxedAutoImplicit false

namespace RuleMatching.Expression

/-- A word among the lexemes of words is a part of one of them without parentheses. -/
theorem Spelled.of_word_mem {ws : List (List Char)} {ls : List Lexeme} (h : Spelled ws ls)
    {l : String} (hl : .word l ∈ ls) :
    l ≠ "" ∧ ∃ w ∈ ws, ∀ c ∈ l.toList, c ∈ w ∧ c ≠ '(' ∧ c ≠ ')' := by
  induction h with
  | nil => simp at hl
  | @cons opens closes core ws ls hcore _ _ ih =>
    rcases List.mem_append.mp hl with hl | hl
    · have hmem : .word l ∈ coreLexemes core := by
        simpa [wrappedLexemes, List.mem_replicate] using hl
      cases core with
      | nil => simp [coreLexemes] at hmem
      | cons c cs =>
        obtain rfl : l = String.ofList (c :: cs) := by simpa [coreLexemes] using hmem
        refine ⟨by simp, _, List.mem_cons_self, ?_⟩
        intro d hd
        rw [String.toList_ofList] at hd
        have hmid : d ∈ wrapped opens (c :: cs) closes :=
          List.mem_append_left _ (List.mem_append_right _ hd)
        exact ⟨hmid, hcore d hd⟩
    · obtain ⟨hne, w, hw, hparts⟩ := ih hl
      exact ⟨hne, w, List.mem_cons_of_mem _ hw, hparts⟩

/-- A text is read as an expression if and only if its words spell the lexemes of the expression,
which is grammatical and not nested too deeply. -/
theorem read_eq_ok_iff {s : String} {e : Expression} :
    read s = .ok e ↔
      Spelled (Text.words s.toList) e.lexemes ∧ e.Grammatical ∧ e.nesting ≤ maxNesting := by
  rw [read, tokens]
  constructor
  · intro h
    split at h
    · simp at h
    · rename_i ls hls
      obtain ⟨he, hroom, rfl⟩ := ofLexemes_eq_ok_iff.mp h
      exact ⟨lexemesOf_eq_ok_iff.mp hls, he, hroom⟩
  · rintro ⟨hspelled, he, hroom⟩
    rw [lexemesOf_eq_ok_iff.mpr hspelled]
    exact ofLexemes_eq_ok_iff.mpr ⟨he, hroom, rfl⟩

/-- The operands of an expression that was read are labels. -/
theorem isLabel_of_read {s : String} {e : Expression} (h : read s = .ok e) {l : String}
    (hl : l ∈ e.operands) : IsLabel l := by
  obtain ⟨hspelled, he, -⟩ := read_eq_ok_iff.mp h
  rw [← labelsOf_lexemes he] at hl
  obtain ⟨hword, hname⟩ := mem_labelsOf.mp hl
  obtain ⟨hne, w, hw, hparts⟩ := hspelled.of_word_mem hword
  refine ⟨hne, ?_, ?_⟩
  · intro c hc
    exact ⟨Text.isBlank_of_mem_words hw (hparts c hc).1, (hparts c hc).2⟩
  · rintro o rfl
    simp [BoolOperator.ofName?_name] at hname

/-- The tokens of a text have the lexemes that its words spell.  The text is read as a tree if and
only if these are the lexemes of the tree, the tree is well-shaped, and no path down the tree
passes more than 128 groups and negations; so there is at most one such tree.  A well-shaped tree
with a longer path is refused for just that. -/
theorem read_tree_iff (s : String) :
    (∀ ls, lexemesOf (tokens s) = .ok ls ↔ Spelled (Text.words s.toList) ls) ∧
      (∀ t : Tree, (read s).map Tree.ofExpression = .ok t ↔
        Spelled (Text.words s.toList) t.yield ∧ t.WellShaped ∧ t.nesting ≤ 128) ∧
      ∀ t : Tree, Spelled (Text.words s.toList) t.yield → t.WellShaped → 128 < t.nesting →
        read s = .error (.tooDeep 128) := by
  refine ⟨fun ls => lexemesOf_eq_ok_iff, fun t => ⟨?_, ?_⟩, ?_⟩
  · intro h
    cases hread : read s with
    | error f => simp [hread, Except.map] at h
    | ok e =>
      obtain rfl : Tree.ofExpression e = t := by simpa [hread, Except.map] using h
      obtain ⟨hspelled, he, hroom⟩ := read_eq_ok_iff.mp hread
      rw [Tree.yield_ofExpression, Tree.nesting_ofExpression]
      exact ⟨hspelled, Tree.wellShaped_ofExpression.mpr ⟨he, fun l => isLabel_of_read hread⟩, hroom⟩
  · rintro ⟨hspelled, hshape, hroom⟩
    have ht := Tree.ofExpression_toExpression t hshape
    rw [← ht] at hspelled hshape hroom
    rw [Tree.yield_ofExpression] at hspelled
    rw [Tree.nesting_ofExpression] at hroom
    have hread := read_eq_ok_iff.mpr
      ⟨hspelled, (Tree.wellShaped_ofExpression.mp hshape).1, hroom⟩
    rw [hread, Except.map, ht]
  · intro t hspelled hshape hdeep
    have ht := Tree.ofExpression_toExpression t hshape
    rw [← ht] at hspelled hshape hdeep
    rw [Tree.yield_ofExpression] at hspelled
    rw [Tree.nesting_ofExpression] at hdeep
    rw [read, tokens, lexemesOf_eq_ok_iff.mpr hspelled]
    exact ofLexemes_eq_tooDeep (Tree.wellShaped_ofExpression.mp hshape).1 hdeep

/-- A label in 129 pairs of parentheses is nested too deeply. -/
theorem read_tooDeep_of_parentheses :
    128 < (Tree.group^[129] (.operand "a")).nesting ∧
      read (String.ofList (wrapped 129 ['a'] 129)) = .error (.tooDeep 128) := by
  have hspelled : Spelled (Text.words (String.ofList (wrapped 129 ['a'] 129)).toList)
      (Tree.group^[129] (.operand "a")).yield := by
    have hwords : Text.words (wrapped 129 ['a'] 129) = [wrapped 129 ['a'] 129] := by
      decide +kernel
    have hyield : (Tree.group^[129] (.operand "a")).yield =
        wrappedLexemes 129 ['a'] 129 ++ [] := by
      decide +kernel
    rw [String.toList_ofList, hwords, hyield]
    exact .cons (by simp) (by simp) .nil
  have hshape : (Tree.group^[129] (.operand "a")).WellShaped := by
    show IsLabel "a"
    refine ⟨by decide, ?_, ?_⟩
    · intro c hc
      obtain rfl : c = 'a' := by simpa using hc
      exact ⟨rfl, by decide, by decide⟩
    · intro o
      cases o <;> decide
  have hdeep : 128 < (Tree.group^[129] (.operand "a")).nesting := by decide +kernel
  exact ⟨hdeep, (read_tree_iff _).2.2 _ hspelled hshape hdeep⟩

end RuleMatching.Expression
