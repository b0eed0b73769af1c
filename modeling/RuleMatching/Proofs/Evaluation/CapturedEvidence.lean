import RuleMatching.Proofs.Evaluation.Polarity
import RuleMatching.Proofs.Judgement.Finding

/-!
What captures hold.  The capture of a clause holds the resolved states and what shows the judgement on
them: where the clause is not inverted all the texts, or the first value, that made it apply, and where
it is inverted values of which none passes: `Matcher.exists_capture_evidence`.
-/

set_option autoImplicit false
set_option relaxedAutoImplicit false

namespace RuleMatching

open Judgement

namespace Context

variable {ctx : Context} {c : Clause} {state1 state2 : Option State}

/-- A clause that captures and applies captures what shows its judgement. -/
theorem exists_capture_of_applies (hbuiltIn : c.operation ≠ .custom) (hcapture : c.capture = true)
    {before : List Capture}
    (happlies : (ctx.clauseAnswer c state1 state2 before).applies = true) :
    ∃ x pattern, (ctx.clauseAnswer c state1 state2 before).capture = some x ∧
      ctx.resolveBoth c state1 state2 = .value (x.state1, x.state2) ∧
      ofClause ctx.registry.reducers ctx.now pattern c x.state1 x.state2 =
        .value (some ⟨!c.invert, x.result⟩) := by
  rcases clauseAnswer_of_builtIn hbuiltIn state1 state2 before with
    ⟨r, v, hresolve, hv, hanswer⟩ | ⟨-, hanswer⟩
  · rw [hanswer, Judgement.answer] at happlies ⊢
    have happlies : (v.holds != c.invert) = true := happlies
    have hholds : v.holds = !c.invert := by
      rwa [bne_iff_ne, ← Bool.eq_not] at happlies
    rw [clauseJudgement, hresolve, Outcome.andThen_value] at hv
    refine ⟨⟨c, r.1, r.2, v.finding⟩, _, by rw [happlies, hcapture]; rfl, hresolve, hv.trans ?_⟩
    rw [← hholds]
  · simp [hanswer, Answer.noMatch] at happlies

end Context

namespace Matcher

variable {c : Clause} {state1 state2 : Option State}

/-- A clause with a built-in operation that captures and applies has a capture with the states that it
resolves to.  If the clause looks for texts or keys, then the result of the capture is, where the clause
is not inverted, the list of those that pass in the first state that has some, or the one text that the
state consists of; and where it is inverted, the list of those of all states, of which none passes.  If
it compares integers or instants, then the result is the first that passes, or one that does not. -/
theorem exists_capture_evidence (m : Matcher) (hbuiltIn : c.operation ≠ .custom)
    (hcapture : c.capture = true) (happlies : m.applies c state1 state2 = true) :
    ∃ x, (m.answerAlone c state1 state2).2.capture = some x ∧
      m.context.resolveBoth c state1 state2 = .value (x.state1, x.state2) ∧
      (c.operation = .equals ∨ c.operation = .startsWith ∨ c.operation = .endsWith →
        TextEvidence (textsOf m.registry.reducers) c.acceptsText ShownAs
          (present x.state1 x.state2) (!c.invert) x.result) ∧
      (c.operation = .containsKey →
        TextEvidence (keysOf m.registry.reducers) c.acceptsText (fun _ ks found => found = .list ks)
          (present x.state1 x.state2) (!c.invert) x.result) ∧
      (c.operation = .lessThan ∨ c.operation = .greaterThan →
        ∃ ts, allTexts m.registry.reducers (present x.state1 x.state2) = .value ts ∧
          ValueEvidence c.acceptsInteger .int (ts.filterMap integer?) (!c.invert) x.result) ∧
      (c.operation = .isBefore ∨ c.operation = .isAfter →
        ValueEvidence c.acceptsInstant .instant
          ((present x.state1 x.state2).filterMap State.instant?) (!c.invert) x.result) := by
  rw [applies_eq] at happlies
  rw [answerAlone_snd]
  obtain ⟨x, pattern, hx, hresolve, hjudgement⟩ :=
    Context.exists_capture_of_applies hbuiltIn hcapture happlies
  exact ⟨x, hx, hresolve, textEvidence_ofClause hjudgement, keyEvidence_ofClause hjudgement,
    integerEvidence_ofClause hjudgement, instantEvidence_ofClause hjudgement⟩

private def startsWithA : Clause := ((Clause.ofOperation .startsWith).withData ["a"]).capturing

private def listOfTexts : State := .ofItems [.text "ab", .text "c", .text "a"]

/-- Behind a text that does not pass, the passing texts of a list are captured in their order. -/
theorem exists_capture_evidence_of_list :
    let m := withSettings .default ⟨0, 0, by decide⟩
    startsWithA.operation ≠ .custom ∧ startsWithA.capture = true ∧
      m.applies startsWithA (some (.text "b")) (some listOfTexts) = true ∧
      TextEvidence (textsOf m.registry.reducers) startsWithA.acceptsText ShownAs
        [.text "b", listOfTexts] true (some (.list ["ab", "a"])) := by
  intro m
  have happlies : m.applies startsWithA (some (.text "b")) (some listOfTexts) = true := by
    decide +kernel
  have hcapture : (m.answerAlone startsWithA (some (.text "b")) (some listOfTexts)).2.capture =
      some ⟨startsWithA, some (.text "b"), some listOfTexts, some (.list ["ab", "a"])⟩ := rfl
  obtain ⟨x, hx, -, htexts, -⟩ := exists_capture_evidence m (by decide) rfl happlies
  obtain rfl := Option.some.inj (hcapture.symm.trans hx)
  exact ⟨by decide, rfl, happlies, htexts (.inr (.inl rfl))⟩

end Matcher

end RuleMatching
