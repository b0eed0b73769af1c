import RuleMatching.Matcher.Issues
import RuleMatching.Proofs.Evaluation.Run
import RuleMatching.Proofs.Lint.Concern
import RuleMatching.Proofs.Text.Words

/-!
The check of a rule agrees with its evaluation on which expressions are broken.  Two recognisers of
expressions and two ways to look labels up are compared here: what the check reports is just what
makes an evaluation without short circuits go wrong, `run_fails_iff_issues`.
-/

set_option autoImplicit false
set_option relaxedAutoImplicit false

namespace RuleMatching

namespace Lint

/-- A label that is not blank is taken for undefined by the check just if it is unknown to the
evaluation. -/
theorem namesClause_eq_false_iff_of_not_blank {r : Rule} {l : String}
    (hl : ∃ c ∈ l.toList, Text.isBlank c = false) :
    namesClause r l = false ↔ r.resolve l = .error (.unknownLabel l) := by
  have htrim : Text.trim l.toList ≠ [] := by
    rw [Ne, Text.trim_eq_nil_iff]
    intro hblank
    obtain ⟨c, hc, hnot⟩ := hl
    rw [hblank c hc] at hnot
    exact absurd hnot (by decide)
  have hlabelled : r.labelled l = [] ↔ r.clauses.any (fun c => c.label == some l) = false := by
    rw [← not_iff_not, Bool.not_eq_false, List.any_eq_true]
    simpa using Rule.labelled_ne_nil_iff
  rw [Rule.resolve_eq_unknownLabel_iff, hlabelled, namesClause]
  simp [htrim]

/-- A label is taken for undefined by the check just if it is unknown to the evaluation. -/
theorem namesClause_eq_false_iff {r : Rule} {l : String} (hl : Expression.IsLabel l) :
    namesClause r l = false ↔ r.resolve l = .error (.unknownLabel l) := by
  obtain ⟨c, cs, hcs⟩ := List.exists_cons_of_ne_nil fun hnil => hl.1 (String.toList_eq_nil_iff.mp hnil)
  have hc : c ∈ l.toList := hcs ▸ List.mem_cons_self
  exact namesClause_eq_false_iff_of_not_blank ⟨c, hc, (hl.2.1 c hc).1⟩

/-- An expression that can be read has an issue just if an operand of it is unknown. -/
theorem mem_expressionKinds_iff_of_read {r : Rule} {text : String} {tree : Expression}
    (hread : Expression.read text = .ok tree) {k : IssueKind} :
    k ∈ expressionKinds r text ↔
      ∃ l ∈ tree.operands, r.resolve l = .error (.unknownLabel l) ∧ k = .undefinedLabel text l := by
  rw [expressionKinds_of_read r hread, undefinedLabels, List.mem_map]
  constructor
  · rintro ⟨l, hl, rfl⟩
    obtain ⟨hoperand, hnames⟩ := List.mem_filter.mp hl
    have hlabel := Expression.isLabel_of_read hread hoperand
    exact ⟨l, hoperand, (namesClause_eq_false_iff hlabel).mp (by simpa using hnames), rfl⟩
  · rintro ⟨l, hoperand, hunknown, rfl⟩
    have hlabel := Expression.isLabel_of_read hread hoperand
    have hnames := (namesClause_eq_false_iff hlabel).mpr hunknown
    exact ⟨l, List.mem_filter.mpr ⟨hoperand, by simp [hnames]⟩, rfl⟩

theorem walk_eq_nil_of_read {r : Rule} {text : String} {tree : Expression}
    (hread : Expression.read text = .ok tree)
    (hknown : ∀ l ∈ tree.operands, r.resolve l ≠ .error (.unknownLabel l)) :
    Walk.start.run r text (Expression.tokens text) = [] := by
  rw [Walk.run_of_read r hread, ← expressionKinds_of_read r hread, List.eq_nil_iff_forall_not_mem]
  intro k hk
  obtain ⟨l, hl, hunknown, -⟩ := (mem_expressionKinds_iff_of_read hread).mp hk
  exact hknown l hl hunknown

end Lint

/-- The issues that make an evaluation of a rule with an expression go wrong: those about the
expression, and those about a label that is shared and an operand. -/
def Issue.IsBreaking (i : Issue) (text : String) : Prop :=
  i.kind.concern = .expression ∨
    ∃ l tree, i.kind = .duplicateLabel l ∧ Expression.read text = .ok tree ∧ l ∈ tree.operands

namespace Matcher

variable {m : Matcher} {r : Rule} {text : String} {found : List Issue}

/-- The issues of a rule about its expression are those that the check of the expression finds. -/
theorem exists_expression_issue_iff (hcustom : ∀ o ∈ m.registry.operations, o.ReportsCustomOnly)
    (hfound : m.issuesOf r = .value found) (htext : r.expression = some text) :
    (∃ i ∈ found, i.kind.concern = .expression) ↔ Lint.expressionKinds r text ≠ [] := by
  have hissues : Lint.expressionIssues r = (Lint.expressionKinds r text).map (.whole r) := by
    rw [Lint.expressionIssues, htext]
  constructor
  · rintro ⟨i, hi, hconcern⟩
    have hmem := (Lint.mem_and_concern_expression_iff hcustom hfound).mp ⟨hi, hconcern⟩
    obtain ⟨k, hk, -⟩ := List.mem_map.mp (hissues ▸ hmem)
    exact List.ne_nil_of_mem hk
  · intro hne
    obtain ⟨k, hk⟩ := List.exists_mem_of_ne_nil _ hne
    have hmem : Issue.whole r k ∈ Lint.expressionIssues r := hissues ▸ List.mem_map_of_mem hk
    exact ⟨_, (Lint.mem_and_concern_expression_iff hcustom hfound).mpr hmem⟩

theorem exists_duplicateLabel_issue_iff
    (hcustom : ∀ o ∈ m.registry.operations, o.ReportsCustomOnly)
    (hfound : m.issuesOf r = .value found) {l : String} :
    (∃ i ∈ found, i.kind = .duplicateLabel l) ↔ r.resolve l = .error (.ambiguousLabel l) := by
  rw [Rule.resolve_eq_ambiguousLabel_iff]
  constructor
  · rintro ⟨i, hi⟩
    exact ((Lint.mem_and_duplicateLabel_iff hcustom hfound).mp hi).1
  · intro hl
    exact ⟨_, (Lint.mem_and_duplicateLabel_iff hcustom hfound).mpr ⟨hl, rfl⟩⟩

/-- There is a breaking issue just if the expression cannot be read or some operand of it is unknown
or ambiguous. -/
theorem exists_isBreaking_iff (hcustom : ∀ o ∈ m.registry.operations, o.ReportsCustomOnly)
    (hfound : m.issuesOf r = .value found) (htext : r.expression = some text) :
    (∃ i ∈ found, i.IsBreaking text) ↔
      (∃ f, Expression.read text = .error f) ∨ ∃ tree, Expression.read text = .ok tree ∧
        ∃ l ∈ tree.operands, r.resolve l = .error (.unknownLabel l) ∨
          r.resolve l = .error (.ambiguousLabel l) := by
  -- The two sorts of breaking issues are looked for apart.
  have hsplit : (∃ i ∈ found, i.IsBreaking text) ↔
      (∃ i ∈ found, i.kind.concern = .expression) ∨ ∃ tree, Expression.read text = .ok tree ∧
        ∃ l ∈ tree.operands, ∃ i ∈ found, i.kind = .duplicateLabel l := by
    constructor
    · rintro ⟨i, hi, hconcern | ⟨l, tree, hkind, hread, hl⟩⟩
      · exact .inl ⟨i, hi, hconcern⟩
      · exact .inr ⟨tree, hread, l, hl, i, hi, hkind⟩
    · rintro (⟨i, hi, hconcern⟩ | ⟨tree, hread, l, hl, i, hi, hkind⟩)
      · exact ⟨i, hi, .inl hconcern⟩
      · exact ⟨i, hi, .inr ⟨l, tree, hkind, hread, hl⟩⟩
  rw [hsplit, exists_expression_issue_iff hcustom hfound htext]
  simp only [exists_duplicateLabel_issue_iff hcustom hfound]
  cases hread : Expression.read text with
  | error f => simp [Lint.expressionKinds_ne_nil r hread]
  | ok tree =>
    have hkinds : Lint.expressionKinds r text ≠ [] ↔
        ∃ l ∈ tree.operands, r.resolve l = .error (.unknownLabel l) := by
      constructor
      · intro hne
        obtain ⟨k, hk⟩ := List.exists_mem_of_ne_nil _ hne
        obtain ⟨l, hl, hunknown, -⟩ := (Lint.mem_expressionKinds_iff_of_read hread).mp hk
        exact ⟨l, hl, hunknown⟩
      · rintro ⟨l, hl, hunknown⟩
        exact List.ne_nil_of_mem
          ((Lint.mem_expressionKinds_iff_of_read hread).mpr ⟨l, hl, hunknown, rfl⟩)
    rw [hkinds]
    simp only [reduceCtorEq, exists_false, Except.ok.injEq, exists_eq_left', false_or]
    constructor
    · rintro (⟨l, hl, h⟩ | ⟨l, hl, h⟩)
      · exact ⟨l, hl, .inl h⟩
      · exact ⟨l, hl, .inr h⟩
    · rintro ⟨l, hl, h | h⟩
      · exact .inl ⟨l, hl, h⟩
      · exact .inr ⟨l, hl, h⟩

/-- Without short circuits an evaluation goes wrong just if the expression cannot be read or some
operand of it is unknown or ambiguous. -/
theorem exists_run_eq_error_iff (htext : r.expression = some text) (traced : Bool)
    (state1 state2 : Option State) :
    (∃ err, (m.run ⟨false, traced⟩ r state1 state2).2 = .error err) ↔
      (∃ f, Expression.read text = .error f) ∨ ∃ tree, Expression.read text = .ok tree ∧
        ∃ l ∈ tree.operands, r.resolve l = .error (.unknownLabel l) ∨
          r.resolve l = .error (.ambiguousLabel l) := by
  have hmode : (Mode.mk false traced).shortCircuit = false := rfl
  simp only [run_eq_error_iff htext hmode, ← Rule.exists_resolutionError_iff]
  constructor
  · rintro ⟨err, ⟨f, hread, -⟩ | ⟨tree, hread, h⟩⟩
    · exact .inl ⟨f, hread⟩
    · exact .inr ⟨tree, hread, err, h⟩
  · rintro (⟨f, hread⟩ | ⟨tree, hread, err, h⟩)
    · exact ⟨_, .inl ⟨f, hread, rfl⟩⟩
    · exact ⟨err, .inr ⟨tree, hread, h⟩⟩

/-- Let custom operations find no issues but custom ones.  Then a rule with an expression goes wrong
without short circuits, in whatever states, just if it has an issue about its expression or about a
shared label that is an operand.  The walk over the tokens finds nothing in an expression that can be
read and whose operands are all known; a rule without issues never goes wrong, with or without short
circuits; and there is a list of issues unless a custom operation faults. -/
theorem run_fails_iff_issues (m : Matcher) (r : Rule)
    (hcustom : ∀ o ∈ m.registry.operations, o.ReportsCustomOnly) :
    (∀ text found, r.expression = some text → m.issuesOf r = .value found →
      ∀ (traced : Bool) (state1 state2 : Option State),
        (∃ err, (m.run ⟨false, traced⟩ r state1 state2).2 = .error err) ↔
          ∃ i ∈ found, i.IsBreaking text) ∧
      (∀ text tree, Expression.read text = .ok tree →
        (∀ l ∈ tree.operands, r.resolve l ≠ .error (.unknownLabel l)) →
          Lint.Walk.start.run r text (Expression.tokens text) = []) ∧
      (m.issuesOf r = .value [] → ∀ mode state1 state2,
        ∃ ev, (m.run mode r state1 state2).2 = .ok ev) ∧
      ((∀ o ∈ m.registry.operations, (∀ c, o.claims c ≠ .fault) ∧ ∀ r c, o.issues r c ≠ .fault) →
        ∃ found, m.issuesOf r = .value found) := by
  refine ⟨?_, fun text tree => Lint.walk_eq_nil_of_read, ?_, ?_⟩
  · intro text found htext hfound traced state1 state2
    rw [exists_isBreaking_iff hcustom hfound htext, exists_run_eq_error_iff htext]
  · intro hfound mode state1 state2
    cases htext : r.expression with
    | none => exact exists_run_eq_ok_of_none htext mode state1 state2
    | some text =>
      have hsound := (not_congr (exists_isBreaking_iff hcustom hfound htext)).mp (by simp)
      rw [not_or] at hsound
      obtain ⟨hreadable, hresolved⟩ := hsound
      cases hread : Expression.read text with
      | error f => exact absurd ⟨f, hread⟩ hreadable
      | ok tree =>
        refine exists_run_eq_ok htext hread ?_ mode state1 state2
        intro l hl
        cases hresolve : r.resolve l with
        | ok c => exact ⟨c, rfl⟩
        | error err =>
          refine absurd ⟨tree, hread, l, hl, ?_⟩ hresolved
          rcases Rule.eq_of_resolve_eq_error hresolve with rfl | rfl
          · exact .inl hresolve
          · exact .inr hresolve
  · intro hfault
    exact Lint.exists_issues_eq_value (fun o ho => (hfault o ho).1) fun o ho => (hfault o ho).2

/-- A custom operation that applies to no state and objects to every clause that asks for it. -/
private def objector : CustomOperation where
  name := "objector"
  claims c := .value (c.asksFor "objector")
  answer _ _ _ _ _ := .value (.ok .noMatch)
  issues r c := .value [.about r c (.custom c.callName "applies to no state")]

private def halfLabelled : Rule :=
  ((Rule.named "r" "half-labelled").withClause
    (((Clause.ofOperation .custom).withCustomOperation "objector").withLabel "a")).withExpression
      "a AND b"

/-- A rule with an unknown operand goes wrong, whatever a custom operation objects to. -/
theorem run_fails_of_unknown_operand :
    let m := (withSettings .default ⟨0, 0, by decide⟩).register (·.addOperation objector)
    (∀ o ∈ m.registry.operations, o.ReportsCustomOnly) ∧
      ∃ err, (m.run ⟨false, false⟩ halfLabelled none none).2 = .error err := by
  intro m
  have hcustom : ∀ o ∈ m.registry.operations, o.ReportsCustomOnly := by
    intro o ho r c found hfound i hi
    obtain rfl : o = objector := List.mem_singleton.mp ho
    obtain rfl := Outcome.value.inj hfound
    obtain rfl := List.mem_singleton.mp hi
    exact ⟨_, _, rfl⟩
  have hfound : m.issuesOf halfLabelled = .value
      (halfLabelled.clausesAt.map (fun c => .about halfLabelled c
        (.custom c.callName "applies to no state")) ++
        [.whole halfLabelled (.undefinedLabel "a AND b" "b")]) := by
    decide +kernel
  refine ⟨hcustom, ((run_fails_iff_issues m halfLabelled hcustom).1 "a AND b" _ rfl hfound false
    none none).mpr ⟨_, List.mem_append_right _ (List.mem_singleton_self _), .inl rfl⟩⟩

end Matcher

end RuleMatching
