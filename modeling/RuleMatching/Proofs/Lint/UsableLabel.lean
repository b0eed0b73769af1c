import RuleMatching.Proofs.Expression.Conjunction
import RuleMatching.Proofs.Evaluation.Meaning
import RuleMatching.Proofs.Lint.Agreement
import RuleMatching.Proofs.Lint.Coverage

/-!
Labels that can be used in expressions.  The check of a rule objects to a label with a space or a
parenthesis in it.  Reading an expression asks for more: a label also has to be there, to be free of
all other blanks, and not to be an operator.  Just then it is read as an operand, and a rule with a
single clause and its label for an expression evaluates that clause: `sole_label_usable_iff`.  Labels
that the check lets pass although they cannot be used are in `legal_label_not_usable`.
-/

set_option autoImplicit false
set_option relaxedAutoImplicit false

namespace RuleMatching

/-- Just a label is read as the operand with its text. -/
theorem Expression.read_eq_operand_iff {l : String} : read l = .ok (.operand l) ↔ IsLabel l := by
  constructor
  · intro h
    exact isLabel_of_read h (List.mem_singleton_self l)
  · intro h
    have hall : ∀ k ∈ [l], IsLabel k := by simpa using h
    have hread := read_joinWith_and hall
    rwa [Text.joinWith, conjunction_nil] at hread

/-- An operand that stands alone is mentioned. -/
theorem Lint.mentioned_of_isLabel {l : String} (h : Expression.IsLabel l) :
    l ∈ (Expression.tokens l).map fun t => bareText t.text := by
  obtain ⟨hne, hchars, -⟩ := h
  have hwords : Text.words l.toList = [l.toList] :=
    Text.words_of_not_blank (by simpa using hne) fun x hx => (hchars x hx).1
  have hbare : bareText l = l := by
    have hkept : ∀ x ∈ l.toList, (!Expression.Token.isParenthesis x) = true := by
      intro x hx
      simp [Expression.Token.isParenthesis, (hchars x hx).2]
    rw [bareText, List.filter_eq_self.mpr hkept, String.ofList_toList]
  simp [Expression.tokens, hwords, Expression.Token.ofText, hbare]

/-- No label is reported as invalid just if none of them holds a space or a parenthesis. -/
theorem Lint.invalidLabels_eq_nil_iff {r : Rule} :
    invalidLabels r = [] ↔
      ∀ c ∈ r.clauses, ∀ l, c.label = some l → ∀ x ∈ l.toList, isForbidden x = false := by
  rw [invalidLabels, List.filterMap_eq_nil_iff, ← Rule.map_clause_clausesAt r, List.forall_mem_map]
  refine forall₂_congr fun c _ => ?_
  cases c.clause.label <;> simp

/-- A rule with one clause, and with the label of the clause for an expression. -/
structure Rule.IsSole (r : Rule) (c : Clause) (l : String) : Prop where
  clauses : r.clauses = [c]
  label : c.label = some l
  expression : r.expression = some l

namespace Rule.IsSole

variable {r : Rule} {c : Clause} {l : String}

theorem clausesAt (h : r.IsSole c l) : r.clausesAt = [⟨0, c⟩] := by
  rw [Rule.clausesAt, h.clauses]
  rfl

theorem resolve (h : r.IsSole c l) : r.resolve l = .ok ⟨0, c⟩ := by
  have hlabelled : r.labelled l = [⟨0, c⟩] := by
    rw [labelled, h.clausesAt]
    simp [h.label]
  rw [Rule.resolve, hlabelled]

theorem duplicateLabels_eq_nil (h : r.IsSole c l) : Lint.duplicateLabels r = [] := by
  rw [List.eq_nil_iff_forall_not_mem]
  intro i hi
  obtain ⟨l', hmany, -⟩ := Lint.mem_duplicateLabels.mp hi
  have hone : (r.labelled l').length ≤ r.clausesAt.length := List.length_filter_le _ _
  rw [h.clausesAt, List.length_singleton] at hone
  omega

theorem expressionIssues_eq_nil (h : r.IsSole c l) (hl : Expression.IsLabel l) :
    Lint.expressionIssues r = [] := by
  have hread := Expression.read_eq_operand_iff.mpr hl
  rw [Lint.expressionIssues, h.expression]
  refine List.map_eq_nil_iff.mpr (List.eq_nil_iff_forall_not_mem.mpr ?_)
  intro k hk
  obtain ⟨l', hl', hunknown, -⟩ := (Lint.mem_expressionKinds_iff_of_read hread).mp hk
  obtain rfl := List.mem_singleton.mp hl'
  simp [h.resolve] at hunknown

theorem coverageIssues_eq_nil (h : r.IsSole c l) (hl : Expression.IsLabel l) :
    Lint.coverageIssues r = [] := by
  have hmentioned := Lint.mentioned_of_isLabel hl
  have hunused : Lint.unusedLabels r l = [] := by
    rw [Lint.unusedLabels, h.clausesAt]
    simpa [h.label] using hmentioned
  have hlacks : Lint.lacksLabels r = false := by
    rw [Lint.lacksLabels, h.clauses]
    simp [h.label]
  simp [Lint.coverageIssues, h.expression, hunused, hlacks, Lint.issueIf]

end Rule.IsSole

namespace Matcher

/-- Let the check not object to the label of a rule with one clause, and let the label be the
expression.  It is read as an operand just if it is not empty, holds no blank and is no operator.
Then the rule has no issues but those of its clause, and evaluating it comes to the answer of the
clause, and to nothing else. -/
theorem sole_label_usable_iff (m : Matcher) {r : Rule} {c : Clause} {l : String} (h : r.IsSole c l)
    (hlegal : Lint.invalidLabels r = []) :
    (Expression.read l = .ok (.operand l) ↔
      l ≠ "" ∧ (∀ x ∈ l.toList, Text.isBlank x = false) ∧ ∀ o : BoolOperator, l ≠ o.name) ∧
      (Expression.read l = .ok (.operand l) →
        m.issuesOf r = Lint.clauseIssues m.registry.operations m.settings.sizeLimit r ⟨0, c⟩ ∧
        ∀ mode state1 state2, (m.run mode r state1 state2).2 =
          .ok ⟨(m.answerAlone c state1 state2).2.applies,
            Progress.start.addAnswer mode.traced l ⟨0, c⟩ (m.answerAlone c state1 state2).2⟩) := by
  have hallowed : ∀ x ∈ l.toList, x ≠ '(' ∧ x ≠ ')' := by
    intro x hx
    have hx := Lint.invalidLabels_eq_nil_iff.mp hlegal c (by simp [h.clauses]) l h.label x hx
    simp only [Lint.isForbidden, Bool.or_eq_false_iff, beq_eq_false_iff_ne] at hx
    exact ⟨hx.1.2, hx.2⟩
  rw [Expression.read_eq_operand_iff]
  refine ⟨?_, ?_⟩
  · constructor
    · rintro ⟨hne, hchars, hname⟩
      exact ⟨hne, fun x hx => (hchars x hx).1, hname⟩
    · rintro ⟨hne, hblank, hname⟩
      exact ⟨hne, fun x hx => ⟨hblank x hx, hallowed x hx⟩, hname⟩
  · intro hl
    refine ⟨?_, ?_⟩
    · rw [issuesOf, Lint.issues, h.clausesAt, h.duplicateLabels_eq_nil, hlegal,
        h.expressionIssues_eq_nil hl, h.coverageIssues_eq_nil hl]
      simp only [Outcome.forEach]
      cases Lint.clauseIssues m.registry.operations m.settings.sizeLimit r ⟨0, c⟩ with
      | fault => rfl
      | value found => simp
    · intro mode state1 state2
      rw [answerAlone_snd]
      refine (run_eq_ok_iff h.expression).mpr
        ⟨.operand l, [], Expression.read_eq_operand_iff.mpr hl, ?_⟩
      exact .operand h.resolve rfl

private def soleNull (label : String) : Rule :=
  ((Rule.named "r" "sole").withClause
    ((Clause.ofOperation .isNull).withLabel label)).withExpression label

private theorem isSole_soleNull (label : String) :
    (soleNull label).IsSole ((Clause.ofOperation .isNull).withLabel label) label :=
  ⟨rfl, rfl, rfl⟩

/-- A label may hold dots, and an operator may be a part of it. -/
theorem sole_label_usable_of_dotted :
    let m := withSettings .default ⟨0, 0, by decide⟩
    Lint.invalidLabels (soleNull "user.AND") = [] ∧ m.issuesOf (soleNull "user.AND") = .value [] ∧
      ∃ ev, (m.run ⟨true, true⟩ (soleNull "user.AND") none none).2 = .ok ev ∧
        ev.matched = true ∧ ev.progress.clausesTested = 1 := by
  intro m
  have hlegal : Lint.invalidLabels (soleNull "user.AND") = [] := by decide +kernel
  have hblank : ∀ x ∈ "user.AND".toList, Text.isBlank x = false := by
    have hnone : "user.AND".toList.any Text.isBlank = false := rfl
    simpa using hnone
  have hname : ∀ o : BoolOperator, "user.AND" ≠ o.name := by
    intro o
    cases o <;> decide
  obtain ⟨hread, husable⟩ := sole_label_usable_iff m (isSole_soleNull "user.AND") hlegal
  obtain ⟨hissues, hrun⟩ := husable (hread.mpr ⟨by decide, hblank, hname⟩)
  exact ⟨hlegal, hissues.trans (by decide +kernel), _, hrun _ none none, rfl, rfl⟩

/-- The empty label, a label with a tab in it and an operator are legal, but none of them is read as
an operand, and a rule with an operator for a label and for its expression goes wrong. -/
theorem legal_label_not_usable :
    let m := withSettings .default ⟨0, 0, by decide⟩
    (Lint.invalidLabels (soleNull "") = [] ∧ Expression.read "" ≠ .ok (.operand "")) ∧
      (Lint.invalidLabels (soleNull "a\tb") = [] ∧ Expression.read "a\tb" ≠ .ok (.operand "a\tb")) ∧
      Lint.invalidLabels (soleNull "AND") = [] ∧ Expression.read "AND" ≠ .ok (.operand "AND") ∧
      m.issuesOf (soleNull "AND") ≠ .value [] ∧
      ∃ err, (m.run ⟨false, false⟩ (soleNull "AND") none none).2 = .error err := by
  intro m
  have hread : Expression.read "AND" = .error (.expectedOperand "AND") := by decide +kernel
  refine ⟨⟨by decide +kernel, by decide +kernel⟩, ⟨by decide +kernel, by decide +kernel⟩,
    by decide +kernel, by simp [hread], by decide +kernel, ?_⟩
  exact ⟨_, run_of_read_eq_error rfl hread _ none none⟩

end Matcher

end RuleMatching
