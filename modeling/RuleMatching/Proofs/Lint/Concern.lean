import RuleMatching.Proofs.Lint.Walk
import RuleMatching.Proofs.Rule.Label

/-!
What the issues of a rule are about.  Each part of the check reports issues of one concern only, so
an issue of a given concern comes from the part of the check for it: `mem_and_concern_expression_iff`
and `mem_and_duplicateLabel_iff`.
-/

set_option autoImplicit false
set_option relaxedAutoImplicit false

namespace RuleMatching

/-- What the definition of a rule is checked for. -/
inductive Concern
  | clause
  | labels
  | expression
  | coverage
  deriving DecidableEq, Repr

/-- What an issue of a kind is about. -/
def IssueKind.concern : IssueKind → Concern
  | .noData _ | .dictDataUnexpected _ _ | .noDataOrDictData _ | .expectedInt _ _
  | .expectedDateTime _ _ | .invalidRegex _ _ | .redundantData _ _ | .redundantDictData _ _
  | .unsupportedOperation _ _ _ | .custom _ _ => .clause
  | .duplicateLabel _ | .invalidLabel _ => .labels
  | .unusedLabel _ | .missingLabels | .expressionButMissingLabels => .coverage
  | .unbalancedParentheses _ | .unclosedParentheses _ | .charactersBeforeOpenParenthesis _ _
  | .charactersAfterClosedParenthesis _ _ | .parenthesisInLabel _ _ | .closeParenthesisInNot _ _
  | .undefinedLabel _ _ | .invalidOperator _ _ | .invalidNotOperator _ | .endsWithOperator _
  | .malformedExpression _ _ => .expression

/-- An issue about an expression, but not that it is unreadable, which no single token shows. -/
def IssueKind.IsOfWalk (k : IssueKind) : Prop :=
  k.concern = .expression ∧ ∀ expression flaw, k ≠ .malformedExpression expression flaw

/-- A custom operation finds no issues but custom ones. -/
def CustomOperation.ReportsCustomOnly (o : CustomOperation) : Prop :=
  ∀ r c found, o.issues r c = .value found →
    ∀ i ∈ found, ∃ clause message, i.kind = .custom clause message

namespace Lint

theorem mem_issueIf {condition : Bool} {kind k : IssueKind} :
    k ∈ issueIf condition kind ↔ condition = true ∧ k = kind := by
  cases condition <;> simp [issueIf]

theorem issueIf_eq_nil_iff {condition : Bool} {kind : IssueKind} :
    issueIf condition kind = [] ↔ condition = false := by
  cases condition <;> simp [issueIf]

theorem exists_of_mem_patternKinds {sizeLimit : Option Nat} {c : ClauseAt} {k : IssueKind}
    (h : k ∈ patternKinds sizeLimit c) : ∃ clause pattern, k = .invalidRegex clause pattern := by
  simp only [patternKinds] at h
  split at h
  · obtain ⟨p, -, rfl⟩ := List.mem_map.mp h
    exact ⟨_, _, rfl⟩
  · exact ⟨_, _, (mem_issueIf.mp h).2⟩

theorem concern_of_mem_operandKinds {sizeLimit : Option Nat} {c : ClauseAt} {k : IssueKind}
    (h : k ∈ operandKinds sizeLimit c) : k.concern = .clause := by
  simp only [operandKinds] at h
  have hpattern := @exists_of_mem_patternKinds sizeLimit c k
  split at h
  all_goals grind [mem_issueIf, IssueKind.concern]

/-- The issues of a clause are about clauses, if custom operations find no others. -/
theorem concern_of_mem_clauseIssues {operations : List CustomOperation} {sizeLimit : Option Nat}
    {r : Rule} {c : ClauseAt} (hcustom : ∀ o ∈ operations, o.ReportsCustomOnly)
    {found : List Issue} (hfound : clauseIssues operations sizeLimit r c = .value found) {i : Issue}
    (hi : i ∈ found) : i.kind.concern = .clause := by
  rw [clauseIssues] at hfound
  split at hfound
  · obtain ⟨claimed, hclaimed, hfound⟩ := Outcome.andThen_eq_value_iff.mp hfound
    cases claimed with
    | some o =>
      obtain ⟨clause, message, hkind⟩ :=
        hcustom o (mem_of_claimant hclaimed) r c found hfound i hi
      rw [hkind]
      rfl
    | none =>
      obtain rfl := Outcome.value.inj hfound
      obtain rfl := List.mem_singleton.mp hi
      rfl
  · obtain rfl := Outcome.value.inj hfound
    obtain ⟨k, hk, rfl⟩ := List.mem_map.mp hi
    exact concern_of_mem_operandKinds hk

/-- A label is reported as shared just if several clauses have it, and then with these clauses. -/
theorem mem_duplicateLabels {r : Rule} {i : Issue} :
    i ∈ duplicateLabels r ↔
      ∃ l, 1 < (r.labelled l).length ∧ i = ⟨r.name, .duplicateLabel l, r.labelled l⟩ := by
  rw [duplicateLabels, List.mem_filterMap]
  constructor
  · rintro ⟨l, -, h⟩
    simp only [Option.ite_none_right_eq_some, Option.some.injEq] at h
    exact ⟨l, h.1, h.2.symm⟩
  · rintro ⟨l, hl, rfl⟩
    have hne : r.labelled l ≠ [] := by
      intro hnil
      simp [hnil] at hl
    obtain ⟨c, hc, hlabel⟩ := Rule.labelled_ne_nil_iff.mp hne
    have hmem : l ∈ (labels r).names := by
      rw [NameSet.mem_names, labels, NameSet.mem_ofList, List.mem_filterMap]
      exact ⟨c, hc, hlabel⟩
    exact ⟨l, hmem, by simp [hl]⟩

private theorem exists_of_mem_invalidLabels {r : Rule} {i : Issue} (h : i ∈ invalidLabels r) :
    ∃ l, i.kind = .invalidLabel l := by
  obtain ⟨c, -, h⟩ := List.mem_filterMap.mp h
  cases hlabel : c.clause.label with
  | none => simp [hlabel] at h
  | some l =>
    simp only [hlabel, Option.ite_none_right_eq_some, Option.some.injEq] at h
    exact ⟨l, h.2 ▸ rfl⟩

theorem concern_of_mem_coverageIssues {r : Rule} {i : Issue} (h : i ∈ coverageIssues r) :
    i.kind.concern = .coverage := by
  have hissueIf : ∀ {condition : Bool} {k : IssueKind}, k.concern = .coverage →
      i ∈ (issueIf condition k).map (.whole r) → i.kind.concern = .coverage := by
    intro condition k hk hi
    obtain ⟨k', hk', rfl⟩ := List.mem_map.mp hi
    obtain ⟨-, rfl⟩ := mem_issueIf.mp hk'
    exact hk
  rcases List.mem_append.mp h with h | h
  · cases hexpression : r.expression with
    | none => simp [hexpression] at h
    | some text =>
      rw [hexpression] at h
      rcases List.mem_append.mp h with h | h
      · obtain ⟨c, -, h⟩ := List.mem_filterMap.mp h
        cases hlabel : c.clause.label with
        | none => simp [hlabel] at h
        | some l =>
          simp only [hlabel, Option.ite_none_left_eq_some, Option.some.injEq] at h
          exact h.2 ▸ rfl
      · exact hissueIf rfl h
  · exact hissueIf rfl h

private theorem isOfWalk_of_mem_step {r : Rule} {text : String} {w : Walk} {t : Expression.Token}
    {k : IssueKind} (h : k ∈ (w.step r text t).1) : k.IsOfWalk := by
  have hshape : k ∈ shapeKinds text t → k.IsOfWalk := by
    intro h
    rw [shapeKinds] at h
    grind [IssueKind.IsOfWalk, IssueKind.concern]
  have hoperand : k ∈ (operandToken r text t).1 → k.IsOfWalk := by
    intro h
    rw [operandToken] at h
    grind [mem_issueIf, IssueKind.IsOfWalk, IssueKind.concern]
  have hoperator : k ∈ (operatorToken text t).1 → k.IsOfWalk := by
    intro h
    rw [operatorToken] at h
    grind [IssueKind.IsOfWalk, IssueKind.concern]
  rw [Walk.step] at h
  grind [mem_issueIf, IssueKind.IsOfWalk, IssueKind.concern]

theorem isOfWalk_of_mem_run {r : Rule} {text : String} {w : Walk}
    {ts : List Expression.Token} {k : IssueKind} (h : k ∈ w.run r text ts) :
    k.IsOfWalk := by
  induction ts generalizing w with
  | nil =>
    rw [Walk.run, Walk.finish] at h
    grind [mem_issueIf, IssueKind.IsOfWalk, IssueKind.concern]
  | cons t ts ih =>
    rcases List.mem_append.mp h with h | h
    · exact isOfWalk_of_mem_step h
    · exact ih h

theorem concern_of_mem_expressionKinds {r : Rule} {text : String} {k : IssueKind}
    (h : k ∈ expressionKinds r text) : k.concern = .expression := by
  rw [expressionKinds] at h
  cases hrun : Walk.start.run r text (Expression.tokens text) with
  | nil =>
    simp only [hrun] at h
    cases hread : Expression.read text with
    | error f =>
      rw [hread] at h
      obtain rfl := List.mem_singleton.mp h
      rfl
    | ok e => simp [hread] at h
  | cons k' ks =>
    simp only [hrun] at h
    exact (isOfWalk_of_mem_run (hrun ▸ h)).1

theorem concern_of_mem_expressionIssues {r : Rule} {i : Issue} (h : i ∈ expressionIssues r) :
    i.kind.concern = .expression := by
  rw [expressionIssues] at h
  cases hexpression : r.expression with
  | none => simp [hexpression] at h
  | some text =>
    rw [hexpression] at h
    obtain ⟨k, hk, rfl⟩ := List.mem_map.mp h
    exact concern_of_mem_expressionKinds hk

section

variable {operations : List CustomOperation} {sizeLimit : Option Nat} {r : Rule}
  {found : List Issue}

private theorem mem_issues_iff (hcustom : ∀ o ∈ operations, o.ReportsCustomOnly)
    (hfound : issues operations sizeLimit r = .value found) :
    ∃ ofClauses : List Issue, (∀ i ∈ ofClauses, i.kind.concern = .clause) ∧
      ∀ i, i ∈ found ↔ i ∈ duplicateLabels r ∨ i ∈ invalidLabels r ∨ i ∈ ofClauses ∨
        i ∈ expressionIssues r ∨ i ∈ coverageIssues r := by
  rw [issues] at hfound
  obtain ⟨ofClauses, heach, hfound⟩ := Outcome.andThen_eq_value_iff.mp hfound
  obtain rfl := Outcome.value.inj hfound
  refine ⟨ofClauses.flatten, ?_, fun i => by simp only [List.mem_append, or_assoc]⟩
  intro i hi
  obtain ⟨ofClause, hof, hi⟩ := List.mem_flatten.mp hi
  obtain ⟨c, -, hc⟩ := Outcome.exists_of_mem_forEach heach hof
  exact concern_of_mem_clauseIssues hcustom hc hi

/-- The issues of a rule that are about its expression are those of its expression. -/
theorem mem_and_concern_expression_iff (hcustom : ∀ o ∈ operations, o.ReportsCustomOnly)
    (hfound : issues operations sizeLimit r = .value found) {i : Issue} :
    i ∈ found ∧ i.kind.concern = .expression ↔ i ∈ expressionIssues r := by
  obtain ⟨ofClauses, hclauses, hmem⟩ := mem_issues_iff hcustom hfound
  rw [hmem]
  constructor
  · rintro ⟨h | h | h | h | h, hconcern⟩
    · obtain ⟨l, -, rfl⟩ := mem_duplicateLabels.mp h
      simp [IssueKind.concern] at hconcern
    · obtain ⟨l, hkind⟩ := exists_of_mem_invalidLabels h
      simp [hkind, IssueKind.concern] at hconcern
    · simp [hclauses i h] at hconcern
    · exact h
    · simp [concern_of_mem_coverageIssues h] at hconcern
  · intro h
    exact ⟨.inr (.inr (.inr (.inl h))), concern_of_mem_expressionIssues h⟩

/-- The issues of a rule about shared labels are there just for the labels that several clauses
have. -/
theorem mem_and_duplicateLabel_iff (hcustom : ∀ o ∈ operations, o.ReportsCustomOnly)
    (hfound : issues operations sizeLimit r = .value found) {i : Issue} {l : String} :
    i ∈ found ∧ i.kind = .duplicateLabel l ↔
      1 < (r.labelled l).length ∧ i = ⟨r.name, .duplicateLabel l, r.labelled l⟩ := by
  obtain ⟨ofClauses, hclauses, hmem⟩ := mem_issues_iff hcustom hfound
  rw [hmem]
  constructor
  · rintro ⟨h, hkind⟩
    have hconcern : i.kind.concern = .labels := by
      rw [hkind]
      rfl
    rcases h with h | h | h | h | h
    · obtain ⟨l', hl', rfl⟩ := mem_duplicateLabels.mp h
      obtain rfl : l' = l := IssueKind.duplicateLabel.inj hkind
      exact ⟨hl', rfl⟩
    · obtain ⟨l', hkind'⟩ := exists_of_mem_invalidLabels h
      simp [hkind'] at hkind
    · simp [hclauses i h] at hconcern
    · simp [concern_of_mem_expressionIssues h] at hconcern
    · simp [concern_of_mem_coverageIssues h] at hconcern
  · rintro ⟨hl, rfl⟩
    exact ⟨.inl (mem_duplicateLabels.mpr ⟨l, hl, rfl⟩), rfl⟩

/-- No part of the check but the one for shared labels reports a label as shared. -/
theorem filter_duplicateLabel (hcustom : ∀ o ∈ operations, o.ReportsCustomOnly)
    (hfound : issues operations sizeLimit r = .value found) (l : String) :
    (found.filter fun i => i.kind = .duplicateLabel l) =
      (duplicateLabels r).filter fun i => i.kind = .duplicateLabel l := by
  rw [issues] at hfound
  obtain ⟨ofClauses, heach, hfound⟩ := Outcome.andThen_eq_value_iff.mp hfound
  obtain rfl := Outcome.value.inj hfound
  have hnone : ∀ is : List Issue, (∀ i ∈ is, i.kind ≠ .duplicateLabel l) →
      (is.filter fun i => i.kind = .duplicateLabel l) = [] := by
    intro is his
    rw [List.filter_eq_nil_iff]
    intro i hi
    simpa using his i hi
  have hinvalid : ∀ i ∈ invalidLabels r, i.kind ≠ .duplicateLabel l := by
    intro i hi
    obtain ⟨l', hkind⟩ := exists_of_mem_invalidLabels hi
    simp [hkind]
  have hother : ∀ i : Issue, i.kind.concern ≠ .labels → i.kind ≠ .duplicateLabel l := by
    rintro i hi hkind
    rw [hkind] at hi
    exact hi rfl
  have hclauses : ∀ i ∈ ofClauses.flatten, i.kind ≠ .duplicateLabel l := by
    intro i hi
    obtain ⟨ofClause, hof, hi⟩ := List.mem_flatten.mp hi
    obtain ⟨c, -, hc⟩ := Outcome.exists_of_mem_forEach heach hof
    exact hother i (by simp [concern_of_mem_clauseIssues hcustom hc hi])
  have hexpression : ∀ i ∈ expressionIssues r, i.kind ≠ .duplicateLabel l := by
    intro i hi
    exact hother i (by simp [concern_of_mem_expressionIssues hi])
  have hcoverage : ∀ i ∈ coverageIssues r, i.kind ≠ .duplicateLabel l := by
    intro i hi
    exact hother i (by simp [concern_of_mem_coverageIssues hi])
  simp only [List.filter_append, hnone _ hinvalid, hnone _ hclauses, hnone _ hexpression,
    hnone _ hcoverage, List.append_nil]

/-- The check of a rule comes to an end if no custom operation faults. -/
theorem exists_issues_eq_value (hclaims : ∀ o ∈ operations, ∀ c, o.claims c ≠ .fault)
    (hissues : ∀ o ∈ operations, ∀ r c, o.issues r c ≠ .fault) :
    ∃ found, issues operations sizeLimit r = .value found := by
  have hclaimant : ∀ c, ∃ claimed, claimant c operations = .value claimed := by
    intro c
    clear hissues
    induction operations with
    | nil => exact ⟨none, rfl⟩
    | cons o os ih =>
      cases hclaimed : o.claims c with
      | fault => exact absurd hclaimed (hclaims o List.mem_cons_self c)
      | value claimed =>
        cases claimed with
        | true => exact ⟨some o, by rw [claimant, hclaimed, Outcome.andThen_value]⟩
        | false =>
          obtain ⟨claimed, h⟩ := ih fun o' ho' => hclaims o' (List.mem_cons_of_mem o ho')
          exact ⟨claimed, by rw [claimant, hclaimed, Outcome.andThen_value, h]⟩
  have hclause : ∀ c ∈ r.clausesAt, ∃ ofClause,
      clauseIssues operations sizeLimit r c = .value ofClause := by
    intro c _
    rw [clauseIssues]
    split
    · obtain ⟨claimed, h⟩ := hclaimant c.clause
      rw [h, Outcome.andThen_value]
      cases claimed with
      | none => exact ⟨_, rfl⟩
      | some o =>
        cases ho : o.issues r c with
        | fault => exact absurd ho (hissues o (mem_of_claimant h) r c)
        | value ofClause => exact ⟨ofClause, ho⟩
    · exact ⟨_, rfl⟩
  obtain ⟨ofClauses, h⟩ := Outcome.exists_forEach_eq_value hclause
  rw [issues, h]
  exact ⟨_, rfl⟩

end

end Lint

end RuleMatching
