import Mathlib.Data.List.Nodup
import RuleMatching.Matcher.Issues
import RuleMatching.Proofs.Lint.Concern

/-!
Labels and expression of a rule in which the check finds nothing.  The clauses then have labels, no
two the same, and the expression can be read.  A label counts as mentioned if it is a token without
its parentheses.  So each label that is not empty and is no operator is an operand, and only such a
label is: `operands_cover_labels`.  A clause that is called like an operator is mentioned wherever
the operator stands, and may name no operand at all: `operatorLabel_not_operand`.
-/

set_option autoImplicit false
set_option relaxedAutoImplicit false

namespace RuleMatching

namespace Lint

/-- What is left of a word without its parentheses is empty or one of the words it spells. -/
theorem bareText_of_spelled {ws : List (List Char)} {ls : List Expression.Lexeme}
    (hspelled : Expression.Spelled ws ls) {w : List Char} (hw : w ∈ ws) :
    bareText (String.ofList w) = "" ∨ .word (bareText (String.ofList w)) ∈ ls := by
  induction hspelled with
  | nil => simp at hw
  | @cons opens closes core ws ls hcore _ _ ih =>
    rcases List.mem_cons.mp hw with rfl | hw
    · rw [bareText_wrapped hcore]
      cases core with
      | nil => exact .inl rfl
      | cons c cs =>
        right
        simp [Expression.wrappedLexemes, Expression.coreLexemes]
    · exact (ih hw).imp_right (List.mem_append_right _)

/-- A label mentioned in an expression that can be read is empty, an operator, or an operand. -/
theorem mem_operands_of_mentioned {text l : String} {tree : Expression}
    (hread : Expression.read text = .ok tree)
    (hmentioned : l ∈ (Expression.tokens text).map fun t => bareText t.text) (hne : l ≠ "")
    (hname : ∀ o : BoolOperator, l ≠ o.name) : l ∈ tree.operands := by
  obtain ⟨hspelled, htree, -⟩ := Expression.read_eq_ok_iff.mp hread
  obtain ⟨w, hw, rfl⟩ : ∃ w ∈ Text.words text.toList, bareText (String.ofList w) = l := by
    simpa [Expression.tokens, Expression.Token.ofText] using hmentioned
  rcases bareText_of_spelled hspelled hw with hempty | hword
  · exact absurd hempty hne
  · rw [← Expression.labelsOf_lexemes htree, Expression.mem_labelsOf]
    refine ⟨hword, ?_⟩
    cases ho : BoolOperator.ofName? (bareText (String.ofList w)) with
    | none => rfl
    | some o => exact absurd (BoolOperator.ofName?_eq_some_iff.mp ho) (hname o)

/-- If no label is reported as shared and no clause lacks one, then no two labels are the same. -/
theorem nodup_labels {r : Rule} (hshared : duplicateLabels r = [])
    (hlabel : ∀ c ∈ r.clauses, ∃ l, c.label = some l) : (r.clauses.map (·.label)).Nodup := by
  rw [List.nodup_iff_count_le_one]
  intro label
  cases label with
  | none =>
    have hnone : none ∉ r.clauses.map (·.label) := by
      intro hmem
      obtain ⟨c, hc, hclabel⟩ := List.mem_map.mp hmem
      obtain ⟨l, hl⟩ := hlabel c hc
      simp [hl] at hclabel
    rw [List.count_eq_zero.mpr hnone]
    exact Nat.zero_le 1
  | some l =>
    rw [Rule.count_label]
    by_contra hmany
    have hmem : ⟨r.name, .duplicateLabel l, r.labelled l⟩ ∈ duplicateLabels r :=
      mem_duplicateLabels.mpr ⟨l, Nat.lt_of_not_le hmany, rfl⟩
    simp [hshared] at hmem

/-- If the check finds nothing, then no part of it does. -/
theorem parts_eq_nil {operations : List CustomOperation} {sizeLimit : Option Nat} {r : Rule}
    (h : issues operations sizeLimit r = .value []) :
    duplicateLabels r = [] ∧ expressionIssues r = [] ∧ coverageIssues r = [] := by
  rw [issues] at h
  obtain ⟨ofClauses, -, hnil⟩ := Outcome.andThen_eq_value_iff.mp h
  simp only [Outcome.value.injEq, List.append_eq_nil_iff] at hnil
  obtain ⟨⟨⟨⟨hshared, -⟩, -⟩, hexpression⟩, hcoverage⟩ := hnil
  exact ⟨hshared, hexpression, hcoverage⟩

/-- If labels and expression fit together, every clause has a label, and it is mentioned. -/
theorem mentioned_of_coverageIssues_eq_nil {r : Rule} {text : String}
    (htext : r.expression = some text) (h : coverageIssues r = []) {c : Clause}
    (hc : c ∈ r.clauses) :
    ∃ l, c.label = some l ∧ l ∈ (Expression.tokens text).map fun t => bareText t.text := by
  simp only [coverageIssues, htext, List.append_eq_nil_iff, List.map_eq_nil_iff,
    issueIf_eq_nil_iff] at h
  obtain ⟨⟨hunused, hlacks⟩, -⟩ := h
  cases hlabel : c.label with
  | none =>
    have hlacking : lacksLabels r = true := List.any_eq_true.mpr ⟨c, hc, by rw [hlabel]; rfl⟩
    simp [hlacking] at hlacks
  | some l =>
    refine ⟨l, rfl, ?_⟩
    obtain ⟨c', hc', rfl⟩ : ∃ c' ∈ r.clausesAt, c'.clause = c := by
      rw [← Rule.map_clause_clausesAt r] at hc
      exact List.mem_map.mp hc
    have hused := List.filterMap_eq_nil_iff.mp hunused c' hc'
    simpa [hlabel] using hused

end Lint

namespace Matcher

/-- If the check of a rule with an expression finds nothing, then all clauses have labels, no two the
same; the expression can be read; and the label of a clause is an operand of it just if the label is
not empty and no operator. -/
theorem operands_cover_labels {m : Matcher} {r : Rule} {text : String}
    (htext : r.expression = some text) (hclean : m.issuesOf r = .value []) :
    (∀ c ∈ r.clauses, ∃ l, c.label = some l) ∧ (r.clauses.map (·.label)).Nodup ∧
      ∃ tree, Expression.read text = .ok tree ∧ ∀ c ∈ r.clauses, ∀ l, c.label = some l →
        (l ∈ tree.operands ↔ l ≠ "" ∧ ∀ o : BoolOperator, l ≠ o.name) := by
  obtain ⟨hshared, hexpression, hcoverage⟩ := Lint.parts_eq_nil hclean
  have hmentioned := fun c => @Lint.mentioned_of_coverageIssues_eq_nil r text htext hcoverage c
  have hlabel : ∀ c ∈ r.clauses, ∃ l, c.label = some l := by
    intro c hc
    obtain ⟨l, hl, -⟩ := hmentioned c hc
    exact ⟨l, hl⟩
  refine ⟨hlabel, Lint.nodup_labels hshared hlabel, ?_⟩
  cases hread : Expression.read text with
  | error f =>
    rw [Lint.expressionIssues, htext] at hexpression
    exact absurd (List.map_eq_nil_iff.mp hexpression) (Lint.expressionKinds_ne_nil r hread)
  | ok tree =>
    refine ⟨tree, rfl, ?_⟩
    intro c hc l hl
    obtain ⟨l', hl', hmem⟩ := hmentioned c hc
    obtain rfl : l = l' := Option.some.inj (hl.symm.trans hl')
    constructor
    · intro hoperand
      obtain ⟨hne, -, hname⟩ := Expression.isLabel_of_read hread hoperand
      exact ⟨hne, hname⟩
    · rintro ⟨hne, hname⟩
      exact Lint.mem_operands_of_mentioned hread hmem hne hname

private def labelled (label : String) : Clause := (Clause.ofOperation .isNull).withLabel label

private def negated : Rule :=
  (((Rule.named "r" "negated").withClause (labelled "a")).withClause (labelled "b")).withExpression
    "a AND NOT (b)"

/-- The labels of two clauses joined by an expression are operands of it. -/
theorem operands_cover_labels_of_negated :
    let m := withSettings .default ⟨0, 0, by decide⟩
    negated.expression = some "a AND NOT (b)" ∧ m.issuesOf negated = .value [] ∧
      ∃ tree, Expression.read "a AND NOT (b)" = .ok tree ∧ "b" ∈ tree.operands := by
  intro m
  have hclean : m.issuesOf negated = .value [] := by decide +kernel
  obtain ⟨-, -, tree, hread, hcover⟩ := operands_cover_labels rfl hclean
  refine ⟨rfl, hclean, tree, hread, ?_⟩
  refine (hcover (labelled "b") (by decide) "b" rfl).mpr ⟨by decide, ?_⟩
  intro o
  cases o <;> decide

private def operatorLabelled : Rule :=
  ((((Rule.named "r" "operator-labelled").withClause (labelled "a")).withClause
    (labelled "b")).withClause (labelled "AND")).withExpression "a AND b"

/-- A clause that is called like an operator of the expression passes for mentioned, and is no
operand. -/
theorem operatorLabel_not_operand :
    let m := withSettings .default ⟨0, 0, by decide⟩
    operatorLabelled.expression = some "a AND b" ∧ m.issuesOf operatorLabelled = .value [] ∧
      ∃ tree, Expression.read "a AND b" = .ok tree ∧
        ∃ c ∈ operatorLabelled.clauses, ∃ l, c.label = some l ∧ l ∉ tree.operands := by
  intro m
  refine ⟨rfl, by decide +kernel, .join (.operand "a") .and (.operand "b"), rfl,
    labelled "AND", by decide, "AND", rfl, by decide⟩

end Matcher

end RuleMatching
