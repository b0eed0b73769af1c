import RuleMatching.Proofs.Evaluation.Verdict
import RuleMatching.Proofs.Judgement.Finding
import RuleMatching.Proofs.Lint.Operand
import RuleMatching.Proofs.Pattern.Alternatives

/-!
Looking for any of several patterns.  A clause looks for the text in which bars join them; where they stay
apart in it, the clause applies just if one of them, by itself, occurs in some text of the states:
`Matcher.applies_patterns_iff`.
-/

set_option autoImplicit false
set_option relaxedAutoImplicit false

namespace RuleMatching

open Judgement (present)

namespace Judgement

variable {reducers : List Reducer} {c : Clause} {states : List State} {p : Pattern}

theorem exists_lookForPattern_iff {s : State} :
    (∃ x, lookForPattern reducers p s = .value (some x)) ↔
      ∃ ts, textsOf reducers s = .value ts ∧ ∃ t ∈ ts, p.occursIn t = true := by
  have hmatches : ∀ ts : List String, ts.flatMap p.matchesIn ≠ [] ↔ ∃ t ∈ ts, p.occursIn t = true := by
    simp [← Pattern.matchesIn_ne_nil_iff]
  simp only [lookForPattern, Outcome.andThen_eq_value_iff, ← hmatches]
  constructor
  · rintro ⟨x, ts, hts, hx⟩
    refine ⟨ts, hts, fun hnil => ?_⟩
    simp [hnil] at hx
  · rintro ⟨ts, hts, hne⟩
    obtain ⟨m, ms, hms⟩ := List.exists_cons_of_ne_nil hne
    exact ⟨.occurrences (m :: ms), ts, hts, by rw [hms]⟩

/-- The judgement on a pattern holds just if it occurs in some text of the states. -/
theorem verdict_somePattern_eq_true_iff (hdata : c.data ≠ []) {v : Option Judgement}
    (h : somePattern reducers (some p) c states = .value v) : verdict v = (true : Bool) ↔
      ∃ s ∈ states, ∃ ts, textsOf reducers s = .value ts ∧ ∃ t ∈ ts, p.occursIn t = true := by
  unfold somePattern at h
  split at h
  · rename_i hempty
    have hstates : states = [] := by simpa [hdata] using hempty
    obtain rfl := Outcome.value.inj h
    simp [verdict, hstates]
  · obtain ⟨found, hfound, hshows⟩ := shows_search h
    rw [verdict_eq_true_iff, hshows.affirmed_eq, ← Option.isSome_iff_exists, Option.isSome_map,
      isSome_firstFinding_iff hfound]
    simp only [exists_lookForPattern_iff]

end Judgement

namespace Lint

/-- What the check of a clause that looks for patterns says of its data. -/
theorem data_of_clauseIssues {operations : List CustomOperation} {sizeLimit : Option Nat} {r : Rule}
    {c : ClauseAt} (hoperation : c.clause.operation = .regex)
    (h : clauseIssues operations sizeLimit r c = .value []) :
    c.clause.data ≠ [] ∧ patternKinds sizeLimit c = [] := by
  rw [clauseIssues, if_neg (by simp [hoperation]), Outcome.value.injEq, List.map_eq_nil_iff] at h
  simp only [operandKinds, hoperation, List.append_eq_nil_iff, issueIf_eq_nil_iff,
    List.isEmpty_eq_false_iff] at h
  exact ⟨h.1.1, h.2⟩

end Lint

namespace Matcher

variable {m : Matcher} {state1 state2 : Option State}

/-- Let a clause that looks for patterns have no issues, and let its patterns stay apart when bars join them.
Where nothing faults, the clause applies, not inverted, just if one of the patterns, by itself, occurs in
some text of some state that is there. -/
theorem applies_patterns_iff (r : Rule) (c : ClauseAt) (hoperation : c.clause.operation = .regex)
    (hplain : c.clause.invert = false)
    (hclean : Lint.clauseIssues m.registry.operations m.settings.sizeLimit r c = .value [])
    (hapart : Pattern.keepApart .initial c.clause.data = true)
    (hfaultless : m.context.clauseJudgement c.clause state1 state2 ≠ .fault) :
    ∃ r1 r2, m.context.resolveBoth c.clause state1 state2 = .value (r1, r2) ∧
      (m.applies c.clause state1 state2 = true ↔
        ∃ s ∈ present r1 r2, ∃ ts, Judgement.textsOf m.registry.reducers s = .value ts ∧ ∃ t ∈ ts,
          ∃ p ∈ c.clause.data, ∃ pattern,
            Pattern.ofText? m.settings.sizeLimit p = some pattern ∧ pattern.occursIn t = true) := by
  obtain ⟨hdata, hpatterns⟩ := Lint.data_of_clauseIssues hoperation hclean
  obtain ⟨joined, hjoined⟩ :=
    Option.isSome_iff_exists.mp (Lint.isValid_of_patternKinds hdata hpatterns)
  obtain ⟨v, hv⟩ : ∃ v, m.context.clauseJudgement c.clause state1 state2 = .value v := by
    cases hjudged : m.context.clauseJudgement c.clause state1 state2 with
    | fault => exact absurd hjudged hfaultless
    | value v => exact ⟨v, rfl⟩
  obtain ⟨r1, r2, hr1, hr2, hjudged⟩ := Context.clauseJudgement_eq_value_iff.mp hv
  refine ⟨r1, r2, by simp only [Context.resolveBoth, hr1, hr2, Outcome.andThen_value], ?_⟩
  have hlimit : m.context.sizeLimit = m.settings.sizeLimit := rfl
  rw [hlimit, hjoined, Judgement.ofClause, hoperation] at hjudged
  rw [applies_eq, Context.applies_eq_decide_verdict (by simp [hoperation]) [] hv, hplain,
    decide_eq_true_iff]
  refine (Judgement.verdict_somePattern_eq_true_iff hdata hjudged).trans ?_
  have hvalid := fun p hp => ((Lint.patternKinds_eq_nil_iff.mp hpatterns).1 p hp).2
  simp only [Pattern.occursIn_joinWith hdata hapart hvalid hjoined]
  rfl

private def overLines : ClauseAt :=
  ⟨0, (Clause.ofOperation .regex).withData ["x(?x) y # a bar\n", "(?x) b c"]⟩

private def spaced : ClauseAt := ⟨0, (Clause.ofOperation .regex).withData ["(?x)a", "b c"]⟩

private def commented : ClauseAt := ⟨1, (Clause.ofOperation .regex).withData ["(?x)a # c", "d"]⟩

/-- Patterns stay apart though the first becomes verbose, where the second is verbose anyway and the comment
in front of it ends with its line. -/
theorem applies_patterns_overLines :
    let m := withSettings .default ⟨0, 0, by decide⟩
    m.applies overLines.clause (some (.text "abcd")) none = true := by
  intro m
  have hclean : Lint.clauseIssues m.registry.operations m.settings.sizeLimit
      ((Rule.named "r" "patterns").withClause overLines.clause) overLines = .value [] := by
    decide +kernel
  have hresolve : m.context.resolveBoth overLines.clause (some (.text "abcd")) none =
      .value (some (.text "abcd"), none) := rfl
  have hread : Judgement.Readable m.registry.reducers (present (some (.text "abcd")) none) := by
    refine ⟨?_, ?_⟩
    all_goals
      intro s hs
      obtain rfl := List.mem_singleton.mp hs
      exact ⟨_, rfl⟩
  have hoperation : overLines.clause.operation = .regex := rfl
  obtain ⟨v, hv⟩ := Context.exists_clauseJudgement hresolve hread (by simp [hoperation])
  obtain ⟨r1, r2, hresolve', hiff⟩ := applies_patterns_iff (m := m) _ overLines hoperation rfl hclean
    (by decide +kernel) (by rw [hv]; simp)
  obtain ⟨rfl, rfl⟩ := Prod.mk.inj (Outcome.value.inj (hresolve.symm.trans hresolve'))
  have hsecond : ∃ pattern ∈ Pattern.ofText? m.settings.sizeLimit "(?x) b c",
      pattern.occursIn "abcd" = true := by
    decide +kernel
  exact hiff.mpr ⟨.text "abcd", List.mem_singleton_self _, ["abcd"], rfl, "abcd",
    List.mem_singleton_self _, "(?x) b c", by decide, hsecond⟩

/-- A pattern that is verbose makes those behind it verbose, so a blank in them counts no more and the clause
applies where none of its patterns occurs.  A comment in a pattern takes in those behind it, so the clause
does not apply where one of them occurs. -/
theorem patterns_reach_ahead :
    let m := withSettings .default ⟨0, 0, by decide⟩
    let r := ((Rule.named "r" "patterns").withClause spaced.clause).withClause commented.clause
    (spaced.clause.invert = false ∧
      Lint.clauseIssues m.registry.operations m.settings.sizeLimit r spaced = .value [] ∧
      m.context.resolveBoth spaced.clause (some (.text "bc")) none =
        .value (some (.text "bc"), none) ∧
      Judgement.textsOf m.registry.reducers (.text "bc") = .value ["bc"] ∧
      m.applies spaced.clause (some (.text "bc")) none = true ∧
      ∀ p ∈ spaced.clause.data, ∀ pattern ∈ Pattern.ofText? m.settings.sizeLimit p,
        pattern.occursIn "bc" = false) ∧
    commented.clause.invert = false ∧
      Lint.clauseIssues m.registry.operations m.settings.sizeLimit r commented = .value [] ∧
      m.context.resolveBoth commented.clause (some (.text "d")) none =
        .value (some (.text "d"), none) ∧
      Judgement.textsOf m.registry.reducers (.text "d") = .value ["d"] ∧
      m.applies commented.clause (some (.text "d")) none = false ∧
      ∃ p ∈ commented.clause.data, ∃ pattern ∈ Pattern.ofText? m.settings.sizeLimit p,
        pattern.occursIn "d" = true :=
  ⟨⟨rfl, by decide +kernel, rfl, rfl, by decide +kernel, by decide +kernel⟩,
    rfl, by decide +kernel, rfl, rfl, by decide +kernel, by decide +kernel⟩

end Matcher

end RuleMatching
