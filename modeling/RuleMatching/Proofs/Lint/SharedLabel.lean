import Mathlib.Data.List.Nodup
import RuleMatching.Proofs.Lint.Agreement

/-!
Labels in the check of a rule and in its evaluation.  The check groups the clauses by their labels and
looks labels up for itself, and the evaluation resolves each label when it comes to it.  They agree on
every label: it is reported as shared just if it is ambiguous, once and with all the clauses that have
it, and it is taken for undefined just if it is unknown, `Matcher.resolve_agrees_with_issues`.
-/

set_option autoImplicit false
set_option relaxedAutoImplicit false

namespace RuleMatching

namespace Lint

variable {r : Rule} {l : String}

theorem nodup_duplicateLabels (r : Rule) : (duplicateLabels r).Nodup := by
  refine (labels r).nodup_names.filterMap ?_
  intro l l' i hi hi'
  simp only [Option.mem_def, Option.ite_none_right_eq_some, Option.some.injEq] at hi hi'
  obtain ⟨-, rfl⟩ := hi
  obtain ⟨-, hsame⟩ := hi'
  exact (IssueKind.duplicateLabel.inj (Issue.mk.inj hsame).2.1).symm

/-- A label that several clauses have is reported once. -/
theorem filter_duplicateLabels (h : 1 < (r.labelled l).length) :
    ((duplicateLabels r).filter fun i => i.kind = .duplicateLabel l) =
      [⟨r.name, .duplicateLabel l, r.labelled l⟩] := by
  have hmem : ∀ i, i ∈ (duplicateLabels r).filter (fun i => i.kind = .duplicateLabel l) ↔
      i = ⟨r.name, .duplicateLabel l, r.labelled l⟩ := by
    intro i
    rw [List.mem_filter, mem_duplicateLabels, decide_eq_true_eq]
    constructor
    · rintro ⟨⟨l', -, rfl⟩, hkind⟩
      obtain rfl : l' = l := IssueKind.duplicateLabel.inj hkind
      rfl
    · rintro rfl
      exact ⟨⟨l, h, rfl⟩, rfl⟩
  have hnodup := (nodup_duplicateLabels r).filter fun i => i.kind = .duplicateLabel l
  exact List.perm_singleton.mp ((List.perm_ext_iff_of_nodup hnodup (List.nodup_singleton _)).mpr
    fun i => by rw [hmem, List.mem_singleton])

end Lint

namespace Matcher

/-- Let custom operations find no issues but custom ones.  Then a label is reported as shared just if it
is ambiguous, in one issue that has all clauses with the label in the order of the rule.  A label that
is not blank is taken for undefined just if it is unknown.  What a label is resolved to is the only
clause that has it, or the clause in the place that it is the number of, if no clause has it; and else
it is unknown or ambiguous.  There is a list of issues unless a custom operation faults. -/
theorem resolve_agrees_with_issues (m : Matcher) (r : Rule)
    (hcustom : ∀ o ∈ m.registry.operations, o.ReportsCustomOnly) :
    (∀ found, m.issuesOf r = .value found → ∀ l,
      (r.resolve l = .error (.ambiguousLabel l) ↔ ∃ i ∈ found, i.kind = .duplicateLabel l) ∧
      (r.resolve l = .error (.ambiguousLabel l) →
        ∃ i, (found.filter fun i => i.kind = .duplicateLabel l) = [i] ∧
          r.ListsLabelled l i.clauses)) ∧
      (∀ l, (∃ c ∈ l.toList, Text.isBlank c = false) →
        (Lint.namesClause r l = true ↔ r.resolve l ≠ .error (.unknownLabel l))) ∧
      (∀ l c, r.resolve l = .ok c ↔ r.Names l c) ∧
      (∀ l err, r.resolve l = .error err → err = .unknownLabel l ∨ err = .ambiguousLabel l) ∧
      ((∀ o ∈ m.registry.operations, (∀ c, o.claims c ≠ .fault) ∧ ∀ r c, o.issues r c ≠ .fault) →
        ∃ found, m.issuesOf r = .value found) := by
  refine ⟨?_, ?_, fun l c => Rule.resolve_eq_ok_iff, fun l err => Rule.eq_of_resolve_eq_error, ?_⟩
  · intro found hfound l
    refine ⟨(exists_duplicateLabel_issue_iff hcustom hfound).symm, ?_⟩
    intro hambiguous
    have hmany := Rule.resolve_eq_ambiguousLabel_iff.mp hambiguous
    refine ⟨⟨r.name, .duplicateLabel l, r.labelled l⟩, ?_, r.listsLabelled_labelled l⟩
    rw [Lint.filter_duplicateLabel hcustom hfound, Lint.filter_duplicateLabels hmany]
  · intro l hl
    rw [Ne, ← Lint.namesClause_eq_false_iff_of_not_blank hl, Bool.not_eq_false]
  · intro hfault
    exact Lint.exists_issues_eq_value (fun o ho => (hfault o ho).1) fun o ho => (hfault o ho).2

/-- A custom operation that has a word to say on every clause that asks for it. -/
private def usher : CustomOperation where
  name := "usher"
  claims c := .value (c.asksFor "usher")
  answer _ _ _ _ _ := .value (.ok .noMatch)
  issues r c := .value [.about r c (.custom c.callName "takes a seat")]

private def seated (label : String) : Clause := (Clause.ofOperation .isNull).withLabel label

private def seats : Rule :=
  ((((Rule.named "r" "seats").withClause (seated "2")).withClause
    (.ofOperation .isNull)).withClause (seated "2")).withClause
      (((Clause.ofOperation .custom).withCustomOperation "usher").withLabel "0")

/-- Of labels that are numbers, one is shared by two clauses, and another names the clause that has it
and not the one in its place; what no clause has may still be the number of a place. -/
theorem resolve_agrees_of_numbers :
    let m := (withSettings .default ⟨0, 0, by decide⟩).register (·.addOperation usher)
    (∀ o ∈ m.registry.operations, o.ReportsCustomOnly) ∧
      (∃ found i, m.issuesOf seats = .value found ∧
        (found.filter fun i => i.kind = .duplicateLabel "2") = [i] ∧
          seats.ListsLabelled "2" i.clauses) ∧
      seats.resolve "0" = .ok ⟨3, ((Clause.ofOperation .custom).withCustomOperation
        "usher").withLabel "0"⟩ ∧
      seats.resolve "+01" = .ok ⟨1, .ofOperation .isNull⟩ ∧ Lint.namesClause seats "+01" = true := by
  intro m
  have hcustom : ∀ o ∈ m.registry.operations, o.ReportsCustomOnly := by
    intro o ho r c found hfound i hi
    obtain rfl : o = usher := List.mem_singleton.mp ho
    obtain rfl := Outcome.value.inj hfound
    obtain rfl := List.mem_singleton.mp hi
    exact ⟨_, _, rfl⟩
  obtain ⟨hissues, hknown, hnames, -, hends⟩ := resolve_agrees_with_issues m seats hcustom
  obtain ⟨found, hfound⟩ := hends fun o ho => by
    obtain rfl : o = usher := List.mem_singleton.mp ho
    exact ⟨fun c => by simp [usher], fun r c => by simp [usher]⟩
  obtain ⟨i, hone, hlists⟩ := (hissues found hfound "2").2 (by decide +kernel)
  have hplace : seats.resolve "+01" = .ok ⟨1, .ofOperation .isNull⟩ := by
    have hdigits : ∀ d ∈ ['0', '1'], d.isDigit = true :=
      List.forall_mem_cons.mpr ⟨by decide, List.forall_mem_singleton.mpr (by decide)⟩
    refine (hnames "+01" _).mpr (.byNumber (by decide) ?_ rfl)
    exact ⟨['0', '1'], .inr rfl, by decide, hdigits, rfl, by decide⟩
  refine ⟨hcustom, ⟨found, i, hfound, hone, hlists⟩, ?_, hplace, ?_⟩
  · refine (hnames "0" _).mpr (.byLabel rfl rfl ?_)
    intro j d hd hlabel
    -- No clause in front has the label, and there is none behind.
    rcases j with _ | _ | _ | _ | j
    · obtain rfl := Option.some.inj hd
      exact absurd hlabel (by decide)
    · obtain rfl := Option.some.inj hd
      exact absurd hlabel (by decide)
    · obtain rfl := Option.some.inj hd
      exact absurd hlabel (by decide)
    · rfl
    · exact nomatch hd
  · refine (hknown "+01" ⟨'+', by decide, by decide⟩).mpr ?_
    rw [hplace]
    exact fun h => nomatch h

end Matcher

end RuleMatching
