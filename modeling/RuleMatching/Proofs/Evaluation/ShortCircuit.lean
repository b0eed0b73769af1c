import RuleMatching.Proofs.Evaluation.Run

/-!
Short circuits.  An operand is passed over only if it has no captures to give and its value cannot
change the result.  So an evaluation that passes over operands has the value and the captures of the
one that does not, step by step: `Evaluates.withShortCircuits`.  What differs is counted by
`Evaluates.counts`.
-/

set_option autoImplicit false
set_option relaxedAutoImplicit false

namespace RuleMatching

/-- Custom operations give captures only for clauses that capture. -/
def Registry.CapturesOnlyIfAsked (r : Registry) : Prop :=
  ∀ o ∈ r.operations, ∀ (c : Clause) (state1 state2 : Option State) (before : List Capture)
    (a : Answer), o.answer c state1 state2 before r.services = .value (.ok a) →
      a.capture.isSome = true → c.capture = true

theorem Rule.mayCaptureIn_join (r : Rule) (e₁ e₂ : Expression) (o : BoolOperator) :
    r.mayCaptureIn (.join e₁ o e₂) = (r.mayCaptureIn e₁ || r.mayCaptureIn e₂) := by
  simp only [mayCaptureIn, Expression.operands, List.any_append]

namespace Context

variable {ctx : Context} {mode : Mode} {rule : Rule} {state1 state2 : Option State}

theorem clauseAnswer_capture (hasked : ctx.registry.CapturesOnlyIfAsked) {c : Clause}
    (hc : c.capture = false) (before : List Capture) :
    (ctx.clauseAnswer c state1 state2 before).capture = none := by
  have hcustom : ∀ r1 r2, ((ctx.customAnswer c r1 r2 before).getD .noMatch).capture = none := by
    intro r1 r2
    rw [customAnswer]
    cases hclaimed : claimant c ctx.registry.operations with
    | fault => rfl
    | value claimed =>
      cases claimed with
      | none => rfl
      | some o =>
        rw [Outcome.andThen_value]
        cases hanswer : o.answer c r1 r2 before ctx.registry.services with
        | fault => simp [hanswer, Outcome.getD, Answer.noMatch]
        | value result =>
          cases result with
          | error message => simp [hanswer, Outcome.getD, Answer.noMatch]
          | ok a =>
            simp only [hanswer, Outcome.andThen_value, Outcome.getD]
            rw [← Option.not_isSome_iff_eq_none]
            intro hsome
            have h := hasked o (mem_of_claimant hclaimed) c r1 r2 before a hanswer hsome
            simp [hc] at h
  rw [clauseAnswer, answerClause_eq]
  cases ctx.resolveBoth c state1 state2 with
  | fault => rfl
  | value resolved =>
    obtain ⟨r1, r2⟩ := resolved
    simp only [answer]
    split
    · exact hcustom r1 r2
    · cases Judgement.ofClause ctx.registry.reducers ctx.now
        (lookUpPattern .empty (patternAsked c r1 r2)).2 c r1 r2 with
      | fault => rfl
      | value judgement =>
        cases judgement with
        | none => rfl
        | some v => simp [Outcome.getD, Judgement.answer, hc]

variable {e : Expression} {p p' : Progress} {skipped : List Expression} {v : Bool}

/-- An operand that may not capture leaves the captures as they are. -/
theorem Evaluates.captures_eq (hasked : ctx.registry.CapturesOnlyIfAsked)
    (h : ctx.Evaluates mode rule state1 state2 e p skipped p' v)
    (hcapture : rule.mayCaptureIn e = false) : p'.captures = p.captures := by
  induction h with
  | @operand l c p a hresolve ha =>
    have hc : c.clause.capture = false := by
      simpa [Rule.mayCaptureIn, Expression.operands, hresolve] using hcapture
    have hnone : a.capture = none := by
      rw [← ha]
      exact clauseAnswer_capture hasked hc _
    simp [hnone]
  | negation _ ih => exact ih hcapture
  | groupTrue _ ih => exact ih hcapture
  | groupFalse _ ih =>
    rw [Progress.keepCaptures_captures, ih hcapture, List.take_length]
  | joinSkipped _ _ ih =>
    rw [Rule.mayCaptureIn_join, Bool.or_eq_false_iff] at hcapture
    rw [Progress.addShortCircuit_captures, ih hcapture.1]
  | joinTested _ _ _ ihl ihr =>
    rw [Rule.mayCaptureIn_join, Bool.or_eq_false_iff] at hcapture
    rw [ihr hcapture.2, ihl hcapture.1]

/-- What an evaluation without short circuits comes to, one with short circuits comes to as well,
with the same captures. -/
theorem Evaluates.withShortCircuits (hasked : ctx.registry.CapturesOnlyIfAsked)
    (h : ctx.Evaluates mode rule state1 state2 e p skipped p' v) (hmode : mode.shortCircuit = false)
    (short : Mode) {q : Progress} (hq : q.captures = p.captures) :
    ∃ skipped' q', ctx.Evaluates short rule state1 state2 e q skipped' q' v ∧
      q'.captures = p'.captures := by
  induction h generalizing q with
  | @operand l c p a hresolve ha =>
    rw [← hq] at ha
    exact ⟨[], _, .operand hresolve ha, by simp [hq]⟩
  | negation _ ih =>
    obtain ⟨skipped', q', h', hq'⟩ := ih hq
    exact ⟨skipped', q', .negation h', hq'⟩
  | groupTrue _ ih =>
    obtain ⟨skipped', q', h', hq'⟩ := ih hq
    exact ⟨skipped', q', .groupTrue h', hq'⟩
  | groupFalse _ ih =>
    obtain ⟨skipped', q', h', hq'⟩ := ih hq
    exact ⟨skipped', _, .groupFalse h', by simp [hq, hq']⟩
  | joinSkipped _ hskip _ => simp [skipped?_eq_none hmode] at hskip
  | @joinTested l r o p p' p'' _ _ left right _ _ hr ihl ihr =>
    obtain ⟨skipped', q', hl', hq'⟩ := ihl hq
    cases hskip : skipped? short rule left o r with
    | none =>
      obtain ⟨skipped'', q'', hr', hq''⟩ := ihr hq'
      exact ⟨_, q'', .joinTested hl' hskip hr', hq''⟩
    | some value =>
      -- The operand passed over here was tested there, to no effect on result and captures.
      obtain ⟨-, hcapture, hdecided⟩ := skipped?_eq_some_iff.mp hskip
      obtain rfl : o.apply left right = value := BoolOperator.apply_of_decided? hdecided right
      refine ⟨_, _, .joinSkipped hl' hskip, ?_⟩
      rw [Progress.addShortCircuit_captures, hq', hr.captures_eq hasked hcapture]

/-- Every operand is either tested or belongs to a part that is passed over, and every part that is
passed over is counted. -/
theorem Evaluates.counts (h : ctx.Evaluates mode rule state1 state2 e p skipped p' v) :
    p'.clausesTested + (skipped.flatMap (·.operands)).length =
        p.clausesTested + e.operands.length ∧
      p'.shortCircuits = p.shortCircuits + skipped.length := by
  induction h with
  | operand _ _ => simp [Expression.operands]
  | negation _ ih => exact ih
  | groupTrue _ ih => exact ih
  | groupFalse _ ih => exact ih
  | joinSkipped _ _ ih =>
    obtain ⟨htested, hcut⟩ := ih
    simp only [Progress.addShortCircuit_clausesTested, Progress.addShortCircuit_shortCircuits,
      List.flatMap_append, List.flatMap_singleton, List.length_append, List.length_singleton,
      Expression.operands]
    omega
  | joinTested _ _ _ ihl ihr =>
    obtain ⟨htested, hcut⟩ := ihl
    obtain ⟨htested', hcut'⟩ := ihr
    simp only [List.flatMap_append, List.length_append, Expression.operands]
    omega

theorem Evaluates.skipped_eq_nil (h : ctx.Evaluates mode rule state1 state2 e p skipped p' v)
    (hmode : mode.shortCircuit = false) : skipped = [] := by
  induction h with
  | operand _ _ => rfl
  | negation _ ih => exact ih
  | groupTrue _ ih => exact ih
  | groupFalse _ ih => exact ih
  | joinSkipped _ hskip _ => simp [skipped?_eq_none hmode] at hskip
  | joinTested _ _ _ ihl ihr => rw [ihl, ihr, List.append_nil]

end Context

namespace Matcher

variable {m m' : Matcher} {r : Rule} {text : String} {state1 state2 : Option State}

/-- If a rule does not go wrong without short circuits, then it does not with them, and both
evaluations have the same value and the same captures. -/
theorem exists_run_withShortCircuits (hcontext : m'.context = m.context)
    (hasked : m.registry.CapturesOnlyIfAsked) (htext : r.expression = some text) {mode : Mode}
    (hmode : mode.shortCircuit = false) (mode' : Mode) {full : Evaluation}
    (hfull : (m.run mode r state1 state2).2 = .ok full) :
    ∃ short tree skipped, Expression.read text = .ok tree ∧
      m.context.Evaluates mode r state1 state2 tree .start [] full.progress full.matched ∧
      m'.context.Evaluates mode' r state1 state2 tree .start skipped short.progress short.matched ∧
      (m'.run mode' r state1 state2).2 = .ok short ∧
      short.matched = full.matched ∧ short.progress.captures = full.progress.captures := by
  obtain ⟨tree, passed, hread, h⟩ := (run_eq_ok_iff htext).mp hfull
  obtain rfl : passed = [] := h.skipped_eq_nil hmode
  obtain ⟨skipped, q, h', hcaptures⟩ := h.withShortCircuits hasked hmode mode' rfl
  rw [← hcontext] at h'
  exact ⟨⟨full.matched, q⟩, tree, skipped, hread, h, h',
    (run_eq_ok_iff htext).mpr ⟨tree, skipped, hread, h'⟩, rfl, hcaptures⟩

/-- Let custom operations give captures only for clauses that capture.  If an evaluation without
short circuits does not go wrong, the one with short circuits does not go wrong either, and has the
same value and the same captures in the same order.  The one tests every operand and passes over
nothing; the other tests the operands but those in the parts that it passes over.  If the evaluation
with short circuits goes wrong, so does the one without.  It does not matter whether a trace is kept
and what the two matchers remember. -/
theorem shortCircuit_unobservable (hcontext : m'.context = m.context)
    (hasked : m.registry.CapturesOnlyIfAsked) (htext : r.expression = some text)
    (traced traced' : Bool) (state1 state2 : Option State) :
    (∀ full, (m.run ⟨false, traced⟩ r state1 state2).2 = .ok full →
      ∃ short tree skipped, (m'.run ⟨true, traced'⟩ r state1 state2).2 = .ok short ∧
        short.matched = full.matched ∧
        short.progress.captures = full.progress.captures ∧
        Expression.read text = .ok tree ∧
        full.progress.shortCircuits = 0 ∧
        full.progress.clausesTested = tree.operands.length ∧
        m'.context.Evaluates ⟨true, traced'⟩ r state1 state2 tree .start skipped short.progress
          short.matched ∧
        short.progress.shortCircuits = skipped.length ∧
        short.progress.clausesTested ≤ full.progress.clausesTested ∧
        full.progress.clausesTested - short.progress.clausesTested =
          (skipped.flatMap (·.operands)).length) ∧
      ∀ err, (m'.run ⟨true, traced'⟩ r state1 state2).2 = .error err →
        ∃ err', (m.run ⟨false, traced⟩ r state1 state2).2 = .error err' := by
  constructor
  · intro full hfull
    obtain ⟨short, tree, skipped, hread, h, h', hshort, hmatched, hcaptures⟩ :=
      exists_run_withShortCircuits hcontext hasked htext rfl ⟨true, traced'⟩ hfull
    obtain ⟨htested, hcut⟩ := h.counts
    obtain ⟨htested', hcut'⟩ := h'.counts
    simp only [List.flatMap_nil, List.length_nil, Progress.start, Nat.add_zero,
      Nat.zero_add] at htested hcut htested' hcut'
    refine ⟨short, tree, skipped, hshort, hmatched, hcaptures, hread, hcut, htested, h', hcut',
      ?_, ?_⟩
    · omega
    · omega
  · intro err herr
    cases hfull : (m.run ⟨false, traced⟩ r state1 state2).2 with
    | error err' => exact ⟨err', rfl⟩
    | ok full =>
      obtain ⟨short, -, -, -, -, -, hshort, -⟩ :=
        exists_run_withShortCircuits hcontext hasked htext rfl ⟨true, traced'⟩ hfull
      simp [hshort] at herr

/-- A custom operation that applies to all states and captures them if asked to. -/
private def echo : CustomOperation where
  name := "echo"
  claims c := .value (c.asksFor "echo")
  answer c state1 state2 _ _ :=
    .value (.ok ⟨true, if c.capture then some ⟨c, state1, state2, none⟩ else none⟩)
  issues _ _ := .value []

private def echoing : Clause := (Clause.ofOperation .custom).withCustomOperation "echo"

private def twoEchoes : Rule :=
  (((Rule.named "r" "two echoes").withClause (echoing.withLabel "a").capturing).withClause
    (echoing.withLabel "b")).withExpression "a OR b"

/-- Of two echoes joined by OR the second may be passed over. -/
theorem shortCircuit_unobservable_of_echoes :
    let m := (withSettings .default ⟨0, 0, by decide⟩).register (·.addOperation echo)
    m.registry.CapturesOnlyIfAsked ∧ twoEchoes.expression = some "a OR b" ∧
      ∃ full short, (m.run ⟨false, false⟩ twoEchoes none none).2 = .ok full ∧
        (m.run ⟨true, true⟩ twoEchoes none none).2 = .ok short ∧ short.matched = full.matched ∧
        short.progress.captures = full.progress.captures := by
  intro m
  have hasked : m.registry.CapturesOnlyIfAsked := by
    intro o ho c state1 state2 before a hanswer hsome
    obtain rfl : o = echo := List.mem_singleton.mp ho
    obtain rfl := Except.ok.inj (Outcome.value.inj hanswer)
    cases hc : c.capture with
    | true => rfl
    | false => simp [hc] at hsome
  have hread : Expression.read "a OR b" = .ok (.join (.operand "a") .or (.operand "b")) := by
    rfl
  have hresolve : ∀ l ∈ (Expression.join (.operand "a") .or (.operand "b")).operands,
      ∃ c, twoEchoes.resolve l = .ok c := by
    intro l hl
    rcases List.mem_cons.mp hl with rfl | hl
    · exact ⟨⟨0, (echoing.withLabel "a").capturing⟩, by rfl⟩
    · obtain rfl := List.mem_singleton.mp hl
      exact ⟨⟨1, echoing.withLabel "b"⟩, by rfl⟩
  obtain ⟨full, hfull⟩ := exists_run_eq_ok (m := m) rfl hread hresolve ⟨false, false⟩ none none
  obtain ⟨short, -, -, hshort, hmatched, hcaptures, -⟩ :=
    (shortCircuit_unobservable rfl hasked rfl false true none none).1 full hfull
  exact ⟨hasked, rfl, full, short, hfull, hshort, hmatched, hcaptures⟩

end Matcher

end RuleMatching
