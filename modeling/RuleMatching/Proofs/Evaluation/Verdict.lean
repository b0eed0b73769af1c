import RuleMatching.Proofs.Evaluation.Polarity
import RuleMatching.Proofs.Judgement.Join
import RuleMatching.Proofs.State.Equality

/-!
The verdict of a clause on two states: true if the clause applies as long as it is not inverted,
false if it applies inverted, and undecided if it applies in neither way.  A verdict on two states is
the greater of those on each of them alone, and whether a clause applies does not depend on the order
of the states: `Matcher.applies_join`.
-/

set_option autoImplicit false
set_option relaxedAutoImplicit false

namespace RuleMatching

open Judgement (present)

namespace Judgement

variable {v₁ v₂ : Option Judgement}

/-- Whether the states differ does not depend on their order. -/
theorem verdict_modified_comm {c : Clause} {state1 state2 : Option State}
    (h₁ : modified c state1 state2 = .value v₁) (h₂ : modified c state2 state1 = .value v₂) :
    verdict v₁ = verdict v₂ := by
  obtain ⟨ds₁, hds₁, h₁⟩ := Outcome.andThen_eq_value_iff.mp h₁
  obtain ⟨ds₂, hds₂, h₂⟩ := Outcome.andThen_eq_value_iff.mp h₂
  obtain rfl := Outcome.value.inj h₁
  obtain rfl := Outcome.value.inj h₂
  have hlimit : 0 < if c.capture then State.unlimited else 1 := by
    cases c.capture <;> decide
  rw [verdict, verdict, State.isEmpty_differencesBetween_comm hlimit hlimit hds₁ hds₂]

/-- On one state it makes no difference whether it is the first or the second. -/
theorem present_none_left (s : Option State) : present none s = present s none := by
  cases s <;> rfl

end Judgement

namespace Context

variable {ctx : Context} {c : Clause} {state1 state2 : Option State} {v v₁ v₂ : Option Judgement}

/-- States in which nothing faults come to a judgement, or to none. -/
theorem exists_clauseJudgement_of_faultless (hregistry : ctx.registry.Faultless)
    (h1 : ∀ s ∈ state1, s.Faultless) (h2 : ∀ s ∈ state2, s.Faultless) (c : Clause) :
    ∃ v, ctx.clauseJudgement c state1 state2 = .value v := by
  obtain ⟨r, hresolve, hfaultless1, hfaultless2⟩ := exists_resolveBoth hregistry h1 h2 c
  exact exists_clauseJudgement hresolve
    (readable_of_faultless hregistry (Judgement.forall_present hfaultless1 hfaultless2))
    fun _ => State.exists_differencesBetween hfaultless1 hfaultless2

/-- The pattern of a clause may be read even where it is not asked for. -/
theorem ofClause_patternAsked (reducers : List Reducer) (now : Instant) (sizeLimit : Option Nat)
    (c : Clause) (state1 state2 : Option State) :
    Judgement.ofClause reducers now
        ((patternAsked c state1 state2).bind (Pattern.ofText? sizeLimit)) c state1 state2 =
      Judgement.ofClause reducers now (Pattern.ofText? sizeLimit (Judgement.patternText c)) c
        state1 state2 := by
  unfold Judgement.ofClause
  cases hoperation : c.operation with
  | regex =>
    simp only [Judgement.somePattern]
    by_cases hasked : c.data.isEmpty || (present state1 state2).isEmpty
    · rw [if_pos hasked, if_pos hasked]
    · have hboth : c.data.isEmpty = false ∧ (present state1 state2).isEmpty = false := by
        simpa using hasked
      rw [if_neg hasked, if_neg hasked, patternAsked, if_pos]
      · rfl
      · simp [hoperation, hboth]
  | _ => rfl

/-- The judgement of a clause is the one on what it resolves to in both states. -/
theorem clauseJudgement_eq_value_iff : ctx.clauseJudgement c state1 state2 = .value v ↔
    ∃ r1 r2, ctx.resolve (c.field.getD "") state1 = .value r1 ∧
      ctx.resolve (c.field.getD "") state2 = .value r2 ∧
      Judgement.ofClause ctx.registry.reducers ctx.now
        (Pattern.ofText? ctx.sizeLimit (Judgement.patternText c)) c r1 r2 = .value v := by
  rw [clauseJudgement, resolveBoth]
  simp only [ofClause_patternAsked]
  cases ctx.resolve (c.field.getD "") state1 with
  | fault => simp
  | value r1 => cases ctx.resolve (c.field.getD "") state2 <;> simp

/-- The judgement of a clause on two states joins those on each of them alone. -/
theorem joins_clauseJudgement (hnull : c.operation ≠ .isNull)
    (hmodified : c.operation ≠ .wasModified) (h : ctx.clauseJudgement c state1 state2 = .value v)
    (h₁ : ctx.clauseJudgement c state1 none = .value v₁)
    (h₂ : ctx.clauseJudgement c none state2 = .value v₂) : Judgement.Joins v v₁ v₂ := by
  obtain ⟨r1, r2, hr1, hr2, hv⟩ := clauseJudgement_eq_value_iff.mp h
  obtain ⟨r1', n2, hr1', hn2, hv₁⟩ := clauseJudgement_eq_value_iff.mp h₁
  obtain ⟨n1, r2', hn1, hr2', hv₂⟩ := clauseJudgement_eq_value_iff.mp h₂
  obtain rfl := Outcome.value.inj hn1
  obtain rfl := Outcome.value.inj hn2
  obtain rfl := Outcome.value.inj (hr1.symm.trans hr1')
  obtain rfl := Outcome.value.inj (hr2.symm.trans hr2')
  exact Judgement.joins_ofClause hnull hmodified hv hv₁ hv₂

/-- For an operation that does not compare the states, it makes no difference whether a state that is
alone is the first or the second. -/
theorem clauseJudgement_none_left (hmodified : c.operation ≠ .wasModified) (s : Option State) :
    ctx.clauseJudgement c none s = ctx.clauseJudgement c s none := by
  have hresolve : ctx.resolve (c.field.getD "") none = .value none := rfl
  rw [clauseJudgement, clauseJudgement, resolveBoth, resolveBoth]
  simp only [ofClause_patternAsked, hresolve]
  cases ctx.resolve (c.field.getD "") s with
  | fault => rfl
  | value r =>
    simp only [Outcome.andThen_value, Judgement.ofClause, Judgement.present_none_left]
    cases hoperation : c.operation with
    | wasModified => exact absurd hoperation hmodified
    | _ => rfl

/-- The verdict does not depend on the order of the states. -/
theorem verdict_swap (hregistry : ctx.registry.Faultless) (h1 : ∀ s ∈ state1, s.Faultless)
    (h2 : ∀ s ∈ state2, s.Faultless) {v v' : Option Judgement}
    (h : ctx.clauseJudgement c state1 state2 = .value v)
    (h' : ctx.clauseJudgement c state2 state1 = .value v') :
    Judgement.verdict v = Judgement.verdict v' := by
  obtain ⟨r1, r2, hr1, hr2, hv⟩ := clauseJudgement_eq_value_iff.mp h
  obtain ⟨r2', r1', hr2', hr1', hv'⟩ := clauseJudgement_eq_value_iff.mp h'
  obtain rfl := Outcome.value.inj (hr1.symm.trans hr1')
  obtain rfl := Outcome.value.inj (hr2.symm.trans hr2')
  by_cases hnull : c.operation = .isNull
  · rw [Judgement.ofClause, hnull] at hv hv'
    obtain rfl := Outcome.value.inj hv
    obtain rfl := Outcome.value.inj hv'
    cases r1 <;> cases r2 <;> rfl
  by_cases hmodified : c.operation = .wasModified
  · rw [Judgement.ofClause, hmodified] at hv hv'
    exact Judgement.verdict_modified_comm hv hv'
  · have hnone : ∀ s ∈ (none : Option State), s.Faultless := by simp
    obtain ⟨v₁, hv₁⟩ := exists_clauseJudgement_of_faultless hregistry h1 hnone c
    obtain ⟨v₂, hv₂⟩ := exists_clauseJudgement_of_faultless hregistry h2 hnone c
    have hjoins := joins_clauseJudgement hnull hmodified h hv₁
      ((clauseJudgement_none_left hmodified state2).trans hv₂)
    have hjoins' := joins_clauseJudgement hnull hmodified h' hv₂
      ((clauseJudgement_none_left hmodified state1).trans hv₁)
    rw [hjoins.verdict_eq, hjoins'.verdict_eq, max_comm]

/-- A clause with a judgement applies if its verdict is the one that it is not inverted to. -/
theorem applies_eq_decide_verdict (hbuiltIn : c.operation ≠ .custom) (before : List Capture)
    (h : ctx.clauseJudgement c state1 state2 = .value v) :
    (ctx.clauseAnswer c state1 state2 before).applies =
      decide (Judgement.verdict v = ((!c.invert : Bool) : WithBot Bool)) := by
  cases v with
  | none =>
    have hundecided : ¬ctx.IsDecided c state1 state2 := by
      rintro ⟨w, hw⟩
      simp [hw] at h
    rw [(applies_of_not_isDecided hbuiltIn before hundecided).1]
    simp [Judgement.verdict]
  | some w =>
    rw [applies_of_judgement hbuiltIn before h, Judgement.verdict]
    cases w.holds <;> cases c.invert <;> rfl

/-- A clause that captures, is not inverted and whose verdict is true captures what its judgement
shows. -/
theorem capture_of_judgement (hbuiltIn : c.operation ≠ .custom) (before : List Capture)
    (hcapture : c.capture = true) (hinvert : c.invert = false)
    (h : ctx.clauseJudgement c state1 state2 = .value v)
    (htrue : Judgement.verdict v = (true : Bool)) :
    ∃ x, (ctx.clauseAnswer c state1 state2 before).capture = some x ∧
      x.result = v.bind (·.finding) := by
  obtain ⟨w, hw⟩ := Judgement.verdict_eq_true_iff.mp htrue
  obtain rfl := Judgement.eq_of_affirmed_eq_some hw
  have hholds : w.holds = true := by
    simpa [Judgement.verdict] using htrue
  rcases clauseAnswer_of_builtIn hbuiltIn state1 state2 before with
    ⟨r, w', -, hw', hanswer⟩ | ⟨hundecided, -⟩
  · obtain rfl := Option.some.inj (Outcome.value.inj (h.symm.trans hw'))
    rw [hanswer, Judgement.answer, hholds, hinvert, hcapture]
    exact ⟨_, rfl, rfl⟩
  · exact absurd ⟨w, h⟩ hundecided

/-- On states with the same judgement, a clause captures the same. -/
theorem exists_captures_of_judgement (hbuiltIn : c.operation ≠ .custom) (hcapture : c.capture = true)
    (hinvert : c.invert = false) {state1' state2' : Option State}
    (h : ctx.clauseJudgement c state1 state2 = .value v)
    (h' : ctx.clauseJudgement c state1' state2' = .value v)
    (htrue : Judgement.verdict v = (true : Bool)) :
    ∃ x y, (ctx.clauseAnswer c state1 state2 []).capture = some x ∧
      (ctx.clauseAnswer c state1' state2' []).capture = some y ∧ x.result = y.result := by
  obtain ⟨x, hx, hshown⟩ := capture_of_judgement hbuiltIn [] hcapture hinvert h htrue
  obtain ⟨y, hy, hshown'⟩ := capture_of_judgement hbuiltIn [] hcapture hinvert h' htrue
  exact ⟨x, y, hx, hy, hshown.trans hshown'.symm⟩

end Context

namespace Matcher

variable {m : Matcher} {c : Clause} {state1 state2 : Option State}

/-- The verdict of a clause: true if the clause applies as long as it is not inverted, false if it
applies inverted, and undecided, the least verdict, if it applies in neither way. -/
def verdict (m : Matcher) (c : Clause) (state1 state2 : Option State) : WithBot Bool :=
  if m.applies { c with invert := false } state1 state2 then (true : Bool)
  else if m.applies { c with invert := true } state1 state2 then (false : Bool)
  else ⊥

theorem verdict_eq (hbuiltIn : c.operation ≠ .custom) {v : Option Judgement}
    (h : m.context.clauseJudgement c state1 state2 = .value v) :
    m.verdict c state1 state2 = Judgement.verdict v := by
  have happlies : ∀ b, m.applies { c with invert := b } state1 state2 =
      decide (Judgement.verdict v = ((!b : Bool) : WithBot Bool)) := by
    intro b
    rw [applies_eq]
    exact Context.applies_eq_decide_verdict (c := { c with invert := b }) hbuiltIn [] h
  rw [verdict, happlies, happlies]
  rcases v with _ | ⟨_ | _, finding⟩ <;> rfl

/-- Let nothing fault.  For a clause with a built-in operation that neither asks whether there is
nothing nor compares the states, the verdict on two states is the greater of the verdicts on each of
them alone; and what it captures if it is not inverted and the verdict is true is what it captures on
the first state alone, if the verdict there is true, and else what it captures on the second alone.
Whether a clause with any built-in operation applies does not depend on the order of the states. -/
theorem applies_join (hregistry : m.registry.Faultless) (hbuiltIn : c.operation ≠ .custom)
    (h1 : ∀ s ∈ state1, s.Faultless) (h2 : ∀ s ∈ state2, s.Faultless) :
    (c.operation ≠ .isNull → c.operation ≠ .wasModified →
      m.verdict c state1 state2 = max (m.verdict c state1 none) (m.verdict c none state2) ∧
      (c.capture = true → c.invert = false → m.verdict c state1 state2 = (true : Bool) →
        ∃ x y, (m.answerAlone c state1 state2).2.capture = some x ∧
          (if m.verdict c state1 none = (true : Bool) then m.answerAlone c state1 none
            else m.answerAlone c none state2).2.capture = some y ∧
          x.result = y.result)) ∧
      m.applies c state1 state2 = m.applies c state2 state1 := by
  have hfaultless : m.context.registry.Faultless := hregistry
  have hnone : ∀ s ∈ (none : Option State), s.Faultless := by simp
  obtain ⟨v, hv⟩ := Context.exists_clauseJudgement_of_faultless hfaultless h1 h2 c
  refine ⟨?_, ?_⟩
  · intro hnull hmodified
    obtain ⟨v₁, hv₁⟩ := Context.exists_clauseJudgement_of_faultless hfaultless h1 hnone c
    obtain ⟨v₂, hv₂⟩ := Context.exists_clauseJudgement_of_faultless hfaultless hnone h2 c
    have hjoins := Context.joins_clauseJudgement hnull hmodified hv hv₁ hv₂
    rw [verdict_eq hbuiltIn hv, verdict_eq hbuiltIn hv₁, verdict_eq hbuiltIn hv₂]
    refine ⟨hjoins.verdict_eq, ?_⟩
    intro hcapture hinvert htrue
    split
    · rename_i h₁
      obtain rfl := hjoins.eq_left h₁
      rw [answerAlone_snd, answerAlone_snd]
      exact Context.exists_captures_of_judgement hbuiltIn hcapture hinvert hv hv₁ htrue
    · rename_i h₁
      obtain rfl := hjoins.eq_right htrue h₁
      rw [answerAlone_snd, answerAlone_snd]
      exact Context.exists_captures_of_judgement hbuiltIn hcapture hinvert hv hv₂ htrue
  · obtain ⟨v', hv'⟩ := Context.exists_clauseJudgement_of_faultless hfaultless h2 h1 c
    rw [applies_eq, applies_eq, Context.applies_eq_decide_verdict hbuiltIn [] hv,
      Context.applies_eq_decide_verdict hbuiltIn [] hv',
      Context.verdict_swap hfaultless h1 h2 hv hv']

private def equalsB : Clause := ((Clause.ofOperation .equals).withData ["b"]).capturing

/-- If the first of two texts is not the wanted one and the second is, then the second is captured. -/
theorem verdict_of_second :
    let m := withSettings .default ⟨0, 0, by decide⟩
    m.verdict equalsB (some (.text "a")) (some (.text "b")) = (true : Bool) ∧
      m.verdict equalsB (some (.text "a")) none = (false : Bool) ∧
      ∃ x y, (m.answerAlone equalsB (some (.text "a")) (some (.text "b"))).2.capture = some x ∧
        (m.answerAlone equalsB none (some (.text "b"))).2.capture = some y ∧
        x.result = y.result := by
  intro m
  obtain ⟨hjoin, -⟩ := @applies_join m equalsB (some (.text "a")) (some (.text "b"))
    Registry.faultless_empty (by decide) (by simp [State.Faultless]) (by simp [State.Faultless])
  obtain ⟨hmax, hcapture⟩ := hjoin (by decide) (by decide)
  have hfirst : m.verdict equalsB (some (.text "a")) none = (false : Bool) := rfl
  have hsecond : m.verdict equalsB none (some (.text "b")) = (true : Bool) := rfl
  have htrue : m.verdict equalsB (some (.text "a")) (some (.text "b")) = (true : Bool) := by
    rw [hmax, hfirst, hsecond]
    rfl
  refine ⟨htrue, hfirst, ?_⟩
  have hshown := hcapture rfl rfl htrue
  rwa [if_neg (by rw [hfirst]; decide)] at hshown

end Matcher

end RuleMatching
