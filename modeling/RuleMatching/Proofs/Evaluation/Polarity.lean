import RuleMatching.Proofs.Evaluation.Meaning
import RuleMatching.Proofs.Judgement.Decision
import RuleMatching.Proofs.State.Faultless

/-!
A clause and the same clause with `invert` negated.  Both come to the same judgement, so at most one
of them applies, and one does if there is a judgement.  If nothing faults there is one just if the
operand serves and the states do: `Matcher.applies_ne_flipped_iff`.
-/

set_option autoImplicit false
set_option relaxedAutoImplicit false

namespace RuleMatching

open Judgement (present)

theorem Judgement.forall_present {p : State → Prop} {state1 state2 : Option State}
    (h1 : ∀ s ∈ state1, p s) (h2 : ∀ s ∈ state2, p s) : ∀ s ∈ present state1 state2, p s := by
  intro s hs
  rcases List.mem_append.mp hs with hs | hs
  · exact h1 s (Option.mem_toList.mp hs)
  · exact h2 s (Option.mem_toList.mp hs)

namespace Context

variable {ctx : Context} {c : Clause} {state1 state2 : Option State}

/-- A judgement does not depend on inversion. -/
theorem clauseJudgement_flipped (c : Clause) :
    ctx.clauseJudgement c.flipped state1 state2 = ctx.clauseJudgement c state1 state2 := rfl

theorem applies_of_judgement (hbuiltIn : c.operation ≠ .custom) (before : List Capture)
    {v : Judgement} (hv : ctx.clauseJudgement c state1 state2 = .value (some v)) :
    (ctx.clauseAnswer c state1 state2 before).applies = (v.holds != c.invert) := by
  rcases clauseAnswer_of_builtIn hbuiltIn state1 state2 before with
    ⟨r, v', -, hv', hanswer⟩ | ⟨hundecided, -⟩
  · rw [hv] at hv'
    obtain rfl := Option.some.inj (Outcome.value.inj hv')
    rw [hanswer, Judgement.answer]
  · exact absurd ⟨v, hv⟩ hundecided

theorem isDecided_of_applies (hbuiltIn : c.operation ≠ .custom) {before : List Capture}
    (h : (ctx.clauseAnswer c state1 state2 before).applies = true) :
    ctx.IsDecided c state1 state2 := by
  rcases clauseAnswer_of_builtIn hbuiltIn state1 state2 before with
    ⟨r, v, -, hv, -⟩ | ⟨-, hanswer⟩
  · exact ⟨v, hv⟩
  · simp [hanswer, Answer.noMatch] at h

/-- Without a judgement neither a clause nor the flipped one applies. -/
theorem applies_of_not_isDecided (hbuiltIn : c.operation ≠ .custom) (before : List Capture)
    (h : ¬ctx.IsDecided c state1 state2) :
    (ctx.clauseAnswer c state1 state2 before).applies = false ∧
      (ctx.clauseAnswer c.flipped state1 state2 before).applies = false := by
  constructor
  · exact Bool.eq_false_iff.mpr (mt (isDecided_of_applies hbuiltIn) h)
  · exact Bool.eq_false_iff.mpr (mt (isDecided_of_applies (c := c.flipped) hbuiltIn) h)

/-- If there is a judgement, the flipped clause applies just if the clause does not. -/
theorem applies_flipped (hbuiltIn : c.operation ≠ .custom) (before : List Capture)
    (h : ctx.IsDecided c state1 state2) :
    (ctx.clauseAnswer c.flipped state1 state2 before).applies =
      !(ctx.clauseAnswer c state1 state2 before).applies := by
  obtain ⟨v, hv⟩ := h
  have hflipped := applies_of_judgement (c := c.flipped) hbuiltIn before
    ((clauseJudgement_flipped c).trans hv)
  rw [hflipped, applies_of_judgement hbuiltIn before hv]
  cases v.holds <;> cases hinvert : c.invert <;> simp [Clause.flipped, hinvert]

/-- Exactly one of a clause and its flipped one applies just if there is a judgement. -/
theorem applies_ne_iff_isDecided (hbuiltIn : c.operation ≠ .custom) (before : List Capture) :
    (ctx.clauseAnswer c state1 state2 before).applies ≠
        (ctx.clauseAnswer c.flipped state1 state2 before).applies ↔
      ctx.IsDecided c state1 state2 := by
  constructor
  · intro hne
    cases hplain : (ctx.clauseAnswer c state1 state2 before).applies with
    | true => exact isDecided_of_applies hbuiltIn hplain
    | false =>
      rw [hplain, ne_eq, eq_comm, Bool.not_eq_false] at hne
      exact isDecided_of_applies (c := c.flipped) hbuiltIn hne
  · intro h
    rw [applies_flipped hbuiltIn before h]
    simp

/-! ### Resolved states -/

/-- A resolved state is never null. -/
theorem isNull_of_resolveBoth {r : Option State × Option State}
    (h : ctx.resolveBoth c state1 state2 = .value r) :
    ∀ s ∈ present r.1 r.2, s.isNull = false := by
  have hresolve : ∀ {o v : Option State}, ctx.resolve (c.field.getD "") o = .value v →
      ∀ s ∈ v, s.isNull = false := by
    intro o v hv s hs
    cases o with
    | none =>
      obtain rfl := Outcome.value.inj hv
      simp at hs
    | some t =>
      obtain ⟨w, -, hw⟩ := Outcome.andThen_eq_value_iff.mp hv
      obtain rfl := Outcome.value.inj hw
      simpa using (Option.filter_eq_some_iff.mp hs).2
  obtain ⟨r1, hr1, h⟩ := Outcome.andThen_eq_value_iff.mp h
  obtain ⟨r2, hr2, h⟩ := Outcome.andThen_eq_value_iff.mp h
  obtain rfl := Outcome.value.inj h
  exact Judgement.forall_present (hresolve hr1) (hresolve hr2)

/-- States in which nothing faults can be resolved to such states. -/
theorem exists_resolveBoth (hregistry : ctx.registry.Faultless) (h1 : ∀ s ∈ state1, s.Faultless)
    (h2 : ∀ s ∈ state2, s.Faultless) (c : Clause) :
    ∃ r, ctx.resolveBoth c state1 state2 = .value r ∧
      (∀ s ∈ r.1, s.Faultless) ∧ ∀ s ∈ r.2, s.Faultless := by
  have hresolve : ∀ o : Option State, (∀ s ∈ o, s.Faultless) →
      ∃ v, ctx.resolve (c.field.getD "") o = .value v ∧ ∀ s ∈ v, s.Faultless := by
    intro o ho
    cases o with
    | none => exact ⟨none, rfl, by simp⟩
    | some s => exact State.exists_follow hregistry _ (ho s rfl)
  obtain ⟨r1, hr1, hfaultless1⟩ := hresolve state1 h1
  obtain ⟨r2, hr2, hfaultless2⟩ := hresolve state2 h2
  exact ⟨(r1, r2), by simp only [resolveBoth, hr1, hr2, Outcome.andThen_value], hfaultless1,
    hfaultless2⟩

/-- States in which nothing faults can be read. -/
theorem readable_of_faultless (hregistry : ctx.registry.Faultless) {states : List State}
    (h : ∀ s ∈ states, s.Faultless) : Judgement.Readable ctx.registry.reducers states := by
  refine ⟨fun s hs => State.exists_reduce hregistry (h s hs), ?_⟩
  intro s hs
  obtain ⟨x, hx⟩ := State.exists_reduce hregistry (h s hs)
  have hpairs : Judgement.pairsOf ctx.registry.reducers s = .value x.pairs := by
    rw [Judgement.pairsOf, hx, Outcome.andThen_value]
  unfold Judgement.keysOf
  split
  · exact ⟨_, rfl⟩
  · split
    · rename_i o ho
      obtain ⟨ns, hns⟩ := (State.faultless_of_object? (h s hs) ho).names
      rw [hns, Outcome.andThen_value]
      split
      · exact ⟨_, by rw [hpairs, Outcome.andThen_value]⟩
      · exact ⟨_, rfl⟩
    · exact ⟨_, by rw [hpairs, Outcome.andThen_value]⟩

/-- On resolved states that can be read, and compared where that is asked for, nothing faults. -/
theorem exists_clauseJudgement {r : Option State × Option State}
    (hresolve : ctx.resolveBoth c state1 state2 = .value r)
    (hread : Judgement.Readable ctx.registry.reducers (present r.1 r.2))
    (hcompare : c.operation = .wasModified →
      ∀ limit, ∃ ds, State.differencesBetween r.1 r.2 limit = .value ds) :
    ∃ v, ctx.clauseJudgement c state1 state2 = .value v := by
  rw [clauseJudgement, hresolve, Outcome.andThen_value]
  exact Judgement.exists_ofClause hread hcompare ctx.now _

/-- Unless there is a fault, there is a judgement just if the operand serves and the resolved states
do. -/
theorem clauseJudgement_decidedIff (hbuiltIn : c.operation ≠ .custom)
    {r : Option State × Option State} (hresolve : ctx.resolveBoth c state1 state2 = .value r) :
    Judgement.DecidedIff (ctx.clauseJudgement c state1 state2)
      (Judgement.OperandServes ctx.sizeLimit c ∧
        Judgement.StatesServe ctx.registry.reducers c (present r.1 r.2)) := by
  have hpattern : c.operation = .regex → c.data ≠ [] → present r.1 r.2 ≠ [] →
      (patternAsked c r.1 r.2).bind (Pattern.ofText? ctx.sizeLimit) =
        Pattern.ofText? ctx.sizeLimit (Judgement.patternText c) := by
    intro hregex hdata hpresent
    simp [patternAsked, hregex, hdata, hpresent]
  rw [clauseJudgement, hresolve, Outcome.andThen_value]
  exact Judgement.ofClause_decidedIff hbuiltIn hpattern ctx.now

/-- There is a judgement just if nothing faults, the operand serves and the resolved states do. -/
theorem isDecided_iff (hbuiltIn : c.operation ≠ .custom) {r : Option State × Option State}
    (hresolve : ctx.resolveBoth c state1 state2 = .value r) :
    ctx.IsDecided c state1 state2 ↔ ctx.clauseJudgement c state1 state2 ≠ .fault ∧
      Judgement.OperandServes ctx.sizeLimit c ∧
      Judgement.StatesServe ctx.registry.reducers c (present r.1 r.2) := by
  have hdecided := clauseJudgement_decidedIff hbuiltIn hresolve
  rw [IsDecided]
  cases hjudged : ctx.clauseJudgement c state1 state2 with
  | fault => simp
  | value v =>
    rw [← hdecided v hjudged, Option.isSome_iff_exists]
    simp

end Context

namespace Matcher

variable {m m' : Matcher}

/-- Whether a clause applies to two states by itself. -/
def applies (m : Matcher) (c : Clause) (state1 state2 : Option State) : Bool :=
  (m.answerAlone c state1 state2).2.applies

theorem applies_eq (m : Matcher) (c : Clause) (state1 state2 : Option State) :
    m.applies c state1 state2 = (m.context.clauseAnswer c state1 state2 []).applies := by
  rw [applies, answerAlone_snd]

/-- A clause with a built-in operation and the flipped one never both apply at one time, whatever is
in memory.  If nothing faults, exactly one of them does if the operand serves and the resolved states
do, and else none. -/
theorem applies_ne_flipped_iff (hcontext : m'.context = m.context) {c : Clause}
    (hbuiltIn : c.operation ≠ .custom) (state1 state2 : Option State) :
    ¬(m.applies c state1 state2 = true ∧ m'.applies c.flipped state1 state2 = true) ∧
      (m.registry.Faultless → (∀ s ∈ state1, s.Faultless) → (∀ s ∈ state2, s.Faultless) →
        ∃ r1 r2, m.context.resolveBoth c state1 state2 = .value (r1, r2) ∧
          (∀ s ∈ present r1 r2, s.isNull = false) ∧
          (m.applies c state1 state2 ≠ m'.applies c.flipped state1 state2 ↔
            Judgement.OperandServes m.settings.sizeLimit c ∧
              Judgement.StatesServe m.registry.reducers c (present r1 r2)) ∧
          (¬(Judgement.OperandServes m.settings.sizeLimit c ∧
              Judgement.StatesServe m.registry.reducers c (present r1 r2)) →
            m.applies c state1 state2 = false ∧
              m'.applies c.flipped state1 state2 = false)) := by
  simp only [applies_eq, hcontext]
  have hnotBoth : ¬((m.context.clauseAnswer c state1 state2 []).applies = true ∧
      (m.context.clauseAnswer c.flipped state1 state2 []).applies = true) := by
    rintro ⟨hplain, hflipped⟩
    have hdecided := Context.isDecided_of_applies hbuiltIn hplain
    rw [Context.applies_flipped hbuiltIn [] hdecided, hplain] at hflipped
    exact Bool.false_ne_true hflipped
  refine ⟨hnotBoth, ?_⟩
  intro hfaultless h1 h2
  have hregistry : m.context.registry.Faultless := hfaultless
  obtain ⟨⟨r1, r2⟩, hresolve, hfaultless1, hfaultless2⟩ :=
    Context.exists_resolveBoth hregistry h1 h2 c
  obtain ⟨v, hv⟩ := Context.exists_clauseJudgement hresolve
    (Context.readable_of_faultless hregistry (Judgement.forall_present hfaultless1 hfaultless2))
    fun _ => State.exists_differencesBetween hfaultless1 hfaultless2
  have hdecided := Context.isDecided_iff hbuiltIn hresolve
  simp only [hv, ne_eq, reduceCtorEq, not_false_eq_true, true_and] at hdecided
  refine ⟨r1, r2, hresolve, Context.isNull_of_resolveBoth hresolve,
    (Context.applies_ne_iff_isDecided hbuiltIn []).trans hdecided, ?_⟩
  intro hnot
  exact Context.applies_of_not_isDecided hbuiltIn [] (mt hdecided.mp hnot)

private def belowFive : Clause := (Clause.ofOperation .lessThan).withData [" 5 "]

/-- A text with an integer is below five or it is not, with null beside it. -/
theorem applies_ne_flipped_of_integer :
    let m := withSettings .default ⟨0, 0, by decide⟩
    m.applies belowFive (some (.text "7")) (some .null) ≠
      m.applies belowFive.flipped (some (.text "7")) (some .null) := by
  intro m
  obtain ⟨-, hexactlyOne⟩ :=
    applies_ne_flipped_iff (m := m) rfl (c := belowFive) (by decide) (some (.text "7")) (some .null)
  obtain ⟨r1, r2, hresolve, -, hiff, -⟩ :=
    hexactlyOne Registry.faultless_empty (by simp [State.Faultless]) (by simp [State.Faultless])
  obtain ⟨rfl, rfl⟩ : some (.text "7") = r1 ∧ none = r2 := Prod.mk.inj (Outcome.value.inj hresolve)
  refine hiff.mpr ⟨⟨" 5 ", rfl, by decide +kernel⟩, ?_⟩
  exact ⟨.text "7", List.mem_cons_self, ["7"], rfl, "7", List.mem_cons_self, by decide +kernel⟩

end Matcher

end RuleMatching
