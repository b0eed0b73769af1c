import RuleMatching.Proofs.Evaluation.Trace

/-!
Faults of extensions in an evaluation.  Evaluating a clause may go wrong: an extension faults, or a
custom operation answers with an error.  The clause then does not apply, inverted or not, and captures
nothing; the rule goes on with the other clauses: `testClause_of_goesWrong`.  A fault gets out of an
evaluation just if there is a step in which a clause faults and writing that to the log faults, too:
`testRuleLogged_cases` and `escapesFrom_iff`.
-/

set_option autoImplicit false
set_option relaxedAutoImplicit false

namespace RuleMatching

/-- The answer of a clause whose evaluation may go wrong: no match if it does. -/
def Answer.contained : Outcome (Except String Answer) → Answer
  | .value (.ok a) => a
  | _ => .noMatch

namespace Context

/-- What evaluating a clause comes to before anything is contained: a fault of an extension is a
fault, and a custom operation that goes wrong leaves its message. -/
def uncontained (ctx : Context) (c : Clause) (state1 state2 : Option State)
    (before : List Capture) : Outcome (Except String Answer) :=
  (ctx.resolveBoth c state1 state2).andThen fun r =>
    if c.operation = .custom then
      (claimant c ctx.registry.operations).andThen fun
        | none => .value (.ok .noMatch)
        | some o => o.answer c r.1 r.2 before ctx.registry.services
    else
      (Judgement.ofClause ctx.registry.reducers ctx.now
        ((patternAsked c r.1 r.2).bind (Pattern.ofText? ctx.sizeLimit)) c r.1 r.2).andThen fun v =>
          .value (.ok (Judgement.answer c r.1 r.2 v))

/-- Evaluating a clause goes wrong: it comes to a fault or to an error. -/
def GoesWrong (ctx : Context) (c : Clause) (state1 state2 : Option State)
    (before : List Capture) : Prop :=
  ∀ a, ctx.uncontained c state1 state2 before ≠ .value (.ok a)

variable {ctx : Context} {mode : Mode} {rule : Rule} {state1 state2 : Option State}

/-- What there is before the catching of faults is what evaluating the clause comes to; the message of a
custom operation that goes wrong is dropped. -/
theorem dispatch_snd_eq (memo : PatternMemo ctx.sizeLimit) (c : Clause) (before : List Capture) :
    (ctx.dispatch memo c state1 state2 before).2 =
      (ctx.uncontained c state1 state2 before).andThen fun result =>
        .value (.contained (.value result)) := by
  rw [dispatch, uncontained]
  cases ctx.resolveBoth c state1 state2 with
  | fault => rfl
  | value r =>
    simp only [answer, lookUpPattern_snd, Outcome.andThen_value]
    by_cases hcustom : c.operation = .custom
    · simp only [hcustom, if_true, customAnswer]
      cases claimant c ctx.registry.operations with
      | fault => rfl
      | value claimed =>
        cases claimed with
        | none => rfl
        | some o =>
          simp only [Outcome.andThen_value]
          rcases o.answer c r.1 r.2 before ctx.registry.services with (_ | _) | _ <;> rfl
    · simp only [hcustom, if_false]
      cases Judgement.ofClause ctx.registry.reducers ctx.now
        ((patternAsked c r.1 r.2).bind (Pattern.ofText? ctx.sizeLimit)) c r.1 r.2 <;> rfl

/-- A clause is answered with what evaluating it comes to, and there is no match if that goes
wrong. -/
theorem clauseAnswer_eq_contained (c : Clause) (before : List Capture) :
    ctx.clauseAnswer c state1 state2 before =
      .contained (ctx.uncontained c state1 state2 before) := by
  rw [clauseAnswer, answerClause]
  simp only [dispatch_snd_eq]
  cases ctx.uncontained c state1 state2 before <;> rfl

theorem clauseAnswer_of_goesWrong {c : Clause} {before : List Capture}
    (h : ctx.GoesWrong c state1 state2 before) :
    ctx.clauseAnswer c state1 state2 before = .noMatch := by
  rw [clauseAnswer_eq_contained]
  cases hresult : ctx.uncontained c state1 state2 before with
  | fault => rfl
  | value result =>
    cases result with
    | error message => rfl
    | ok a => exact absurd hresult (h a)

/-- A clause with a built-in operation goes wrong just if there is a fault on the way to its
judgement. -/
theorem goesWrong_iff_of_builtIn {c : Clause} (hbuiltIn : c.operation ≠ .custom)
    (before : List Capture) :
    ctx.GoesWrong c state1 state2 before ↔ ctx.clauseJudgement c state1 state2 = .fault := by
  rw [GoesWrong, uncontained, clauseJudgement]
  cases ctx.resolveBoth c state1 state2 with
  | fault => simp
  | value r =>
    simp only [hbuiltIn, if_false, Outcome.andThen_value]
    cases Judgement.ofClause ctx.registry.reducers ctx.now
      ((patternAsked c r.1 r.2).bind (Pattern.ofText? ctx.sizeLimit)) c r.1 r.2 <;> simp

/-- A clause with a built-in operation goes wrong in both polarities or in none. -/
theorem goesWrong_flipped_iff {c : Clause} (hbuiltIn : c.operation ≠ .custom)
    (before : List Capture) :
    ctx.GoesWrong c.flipped state1 state2 before ↔ ctx.GoesWrong c state1 state2 before := by
  have hflipped : c.flipped.operation ≠ .custom := hbuiltIn
  rw [goesWrong_iff_of_builtIn hflipped, goesWrong_iff_of_builtIn hbuiltIn]
  exact Iff.rfl

/-- A clause that goes wrong counts as one that was tested and does not apply, and what was captured
before it is kept. -/
theorem testClause_of_goesWrong {c : ClauseAt} {run : Run ctx.sizeLimit}
    (h : ctx.GoesWrong c.clause state1 state2 (run.progress.captures.map (·.capture)))
    (name : String) :
    (ctx.testClause mode state1 state2 name c run).2 = false ∧
      (ctx.testClause mode state1 state2 name c run).1.progress =
        run.progress.addAnswer mode.traced name c .noMatch := by
  obtain ⟨memo, hclause⟩ := testClause_eq ctx mode state1 state2 name c run
  rw [hclause, clauseAnswer_of_goesWrong h]
  exact ⟨rfl, rfl⟩

/-! ### Faults that get out -/

/-- A fault gets out of a step: its clause faults, and so does writing that to the log. -/
def escapes (ctx : Context) (log : Log) (state1 state2 : Option State) : Step → Bool
  | .tested _ c before _ =>
      (ctx.uncontained c.clause state1 state2 before).isFault && (log.report state1 state2).isFault
  | .passedOver _ _ _ _ => false

/-- An evaluation from which faults may get out comes to what it comes to without a log, or a fault gets
out of one of its steps. -/
def AgreesBut {ε β : Type} (escapes : Step → Bool) (steps : List Step) (logged : Except ε β)
    (plain : β) : Prop :=
  ((∀ s ∈ steps, escapes s = false) ∧ logged = .ok plain) ∨
    (∃ s ∈ steps, escapes s = true) ∧ ∃ left, logged = .error left

namespace AgreesBut

variable {ε β γ : Type} {escapes : Step → Bool} {steps steps' : List Step} {a : Except ε β} {x : β}

theorem pure (x : β) : AgreesBut escapes [] (.ok x : Except ε β) x := .inl ⟨by simp, rfl⟩

/-- The steps of an evaluation, and of what goes on with its result. -/
theorem bind {f : β → Except ε γ} {y : γ} (h : AgreesBut escapes steps a x)
    (h' : AgreesBut escapes steps' (f x) y) : AgreesBut escapes (steps ++ steps') (a >>= f) y := by
  rcases h with ⟨hsteps, rfl⟩ | ⟨⟨s, hs, hescapes⟩, left, rfl⟩
  · rcases h' with ⟨hsteps', hf⟩ | ⟨⟨s, hs, hescapes⟩, left, hf⟩
    · exact .inl ⟨List.forall_mem_append.mpr ⟨hsteps, hsteps'⟩, hf⟩
    · exact .inr ⟨⟨s, List.mem_append_right _ hs, hescapes⟩, left, hf⟩
  · exact .inr ⟨⟨s, List.mem_append_left _ hs, hescapes⟩, left, rfl⟩

theorem map {f : β → Except ε γ} {y : γ} (h : AgreesBut escapes steps a x) (hf : f x = .ok y) :
    AgreesBut escapes steps (a >>= f) y := by
  have hrest : AgreesBut escapes [] (f x) y := by
    rw [hf]
    exact .pure y
  simpa only [List.append_nil] using h.bind hrest

end AgreesBut

variable {log : Log}

/-- A clause is answered as without a log, or its fault gets out. -/
theorem answerLogged_eq (memo : PatternMemo ctx.sizeLimit) (c : Clause) (before : List Capture) :
    ctx.answerLogged log memo c state1 state2 before =
      ((ctx.answerClause memo c state1 state2 before).1,
        if (ctx.uncontained c state1 state2 before).isFault && (log.report state1 state2).isFault then
          .fault
        else .value (ctx.answerClause memo c state1 state2 before).2) := by
  have hdispatch := @dispatch_snd_eq ctx state1 state2 memo c before
  rw [answerLogged, answerClause]
  generalize ctx.dispatch memo c state1 state2 before = dispatched at hdispatch ⊢
  obtain ⟨memo', a | _⟩ := dispatched
  · cases hresult : ctx.uncontained c state1 state2 before with
    | fault => simp [hresult] at hdispatch
    | value result => simp [Outcome.getD]
  · cases hresult : ctx.uncontained c state1 state2 before with
    | value result => simp [hresult] at hdispatch
    | fault => cases log.report state1 state2 <;> simp [Outcome.getD]

/-- A clause is tested as without a log, or its fault gets out. -/
theorem testClause_agrees (name : String) (c : ClauseAt) (run : Run ctx.sizeLimit) :
    AgreesBut (ctx.escapes log state1 state2) [(ctx.answering state1 state2).stepOf name c run.progress]
      (ctx.testClauseLogged log mode state1 state2 name c run)
      (ctx.testClause mode state1 state2 name c run) := by
  rw [testClauseLogged, testClause, Answering.stepOf, AgreesBut]
  simp only [List.mem_singleton, forall_eq, exists_eq_left, escapes, answerLogged_eq]
  cases (ctx.uncontained c.clause state1 state2 (run.progress.captures.map (·.capture))).isFault &&
    (log.report state1 state2).isFault with
  | false => exact .inl ⟨rfl, rfl⟩
  | true => exact .inr ⟨rfl, _, rfl⟩

/-- Clauses are tested one after the other as without a log, or a fault gets out of a step. -/
theorem walkAll_agrees (cs : List ClauseAt) (run : Run ctx.sizeLimit) :
    AgreesBut (ctx.escapes log state1 state2)
      ((ctx.answering state1 state2).allSteps mode cs run.progress)
      (walkAll (ctx.testClauseLogged log mode state1 state2) mode cs run)
      (ctx.testAll mode state1 state2 cs run) := by
  induction cs generalizing run with
  | nil => exact .pure _
  | cons c cs ih =>
    have hfirst := @testClause_agrees ctx mode state1 state2 log (Numeral.text c.index) c run
    obtain ⟨memo, hclause⟩ :=
      testClause_eq ctx mode state1 state2 (Numeral.text c.index) c run
    rw [walkAll, testAll_cons, Answering.allSteps, Answering.clauseValue, answering]
    rw [hclause] at hfirst ⊢
    cases happlies : (ctx.clauseAnswer c.clause state1 state2
        (run.progress.captures.map (·.capture))).applies with
    | false =>
      rw [happlies] at hfirst
      exact hfirst.map rfl
    | true =>
      rw [happlies] at hfirst
      exact hfirst.bind (ih ⟨memo, _⟩)

/-- An expression is evaluated as without a log, or a fault gets out of a step. -/
theorem walk_agrees (e : Expression) (run : Run ctx.sizeLimit) :
    AgreesBut (ctx.escapes log state1 state2)
      ((ctx.answering state1 state2).steps mode rule e run.progress)
      (walk (ctx.testClauseLogged log mode state1 state2) mode rule e run)
      (ctx.testExpression mode rule state1 state2 e run) := by
  induction e generalizing run with
  | operand l =>
    rw [walk, testExpression_operand, Answering.steps]
    cases rule.resolve l with
    | error err => exact .pure _
    | ok c => exact (testClause_agrees l c run).map rfl
  | negation e ih => exact (ih run).map rfl
  | group e ih =>
    rw [walk, testExpression_group, Answering.steps]
    refine (ih run).map ?_
    rcases ctx.testExpression mode rule state1 state2 e run with ⟨q, err | _ | _⟩ <;> rfl
  | join l o r ihl ihr =>
    have hl := ihl run
    obtain ⟨memo, hvalue⟩ := @testExpression_eq ctx mode rule state1 state2 l run
    rw [walk, testExpression_join, Answering.steps]
    rw [hvalue] at hl ⊢
    generalize (ctx.answering state1 state2).value mode rule l run.progress = result at hl ⊢
    obtain ⟨p, err | left⟩ := result
    · exact hl.bind (.pure _)
    · refine hl.bind ?_
      cases hskip : skipped? mode rule left o r with
      | some v =>
        simp only [hskip]
        exact .inl ⟨List.forall_mem_singleton.mpr rfl, rfl⟩
      | none =>
        simp only [hskip]
        exact (ihr ⟨memo, p⟩).map rfl

/-- A fault gets out of evaluating a rule, whatever its target is. -/
def escapesFrom (ctx : Context) (log : Log) (mode : Mode) (rule : Rule)
    (state1 state2 : Option State) : Bool :=
  ((ctx.answering state1 state2).ruleSteps mode rule).any (ctx.escapes log state1 state2)

/-- A fault gets out just if a clause faults that is tested, with the captures before it, and writing
that to the log faults, too. -/
theorem escapesFrom_iff :
    ctx.escapesFrom log mode rule state1 state2 = true ↔
      log.report state1 state2 = .fault ∧ ∃ label c before applies,
        .tested label c before applies ∈ (ctx.answering state1 state2).ruleSteps mode rule ∧
        ctx.uncontained c.clause state1 state2 before = .fault := by
  rw [escapesFrom, List.any_eq_true]
  constructor
  · rintro ⟨s, hs, hescapes⟩
    cases s with
    | passedOver part operator left value => cases hescapes
    | tested label c before applies =>
      rw [escapes, Bool.and_eq_true, Outcome.isFault_iff, Outcome.isFault_iff] at hescapes
      exact ⟨hescapes.2, label, c, before, applies, hs, hescapes.1⟩
  · rintro ⟨hreport, label, c, before, applies, hs, hfault⟩
    exact ⟨_, hs, by rw [escapes, hfault, hreport]; rfl⟩

/-- The faults of the clauses that are tested can be written to the log. -/
def FaultsWritten (ctx : Context) (log : Log) (mode : Mode) (rule : Rule)
    (state1 state2 : Option State) : Prop :=
  ∀ label c before applies,
    .tested label c before applies ∈ (ctx.answering state1 state2).ruleSteps mode rule →
      ctx.uncontained c.clause state1 state2 before = .fault → log.report state1 state2 = .value ()

theorem escapesFrom_eq_false_iff :
    ctx.escapesFrom log mode rule state1 state2 = false ↔
      ctx.FaultsWritten log mode rule state1 state2 := by
  rw [Bool.eq_false_iff, ne_eq, escapesFrom_iff, FaultsWritten]
  cases log.report state1 state2 <;>
    simp only [true_and, false_and, not_false_eq_true, not_exists, not_and, reduceCtorEq, imp_false,
      implies_true]

/-- Nothing keeps faults from a log that nobody reads. -/
theorem faultsWritten_silent : ctx.FaultsWritten .silent mode rule state1 state2 :=
  fun _ _ _ _ _ _ => Log.silent_report state1 state2

/-- A rule is evaluated with a log as without one, or a fault gets out of a step. -/
theorem testRuleLogged_cases (memo : PatternMemo ctx.sizeLimit) (tree : Option Expression) :
    ((∀ s ∈ (ctx.answering state1 state2).treeSteps mode rule tree,
        ctx.escapes log state1 state2 s = false) ∧
      ctx.testRuleLogged log mode memo rule tree state1 state2 =
        ((ctx.testRule mode memo rule tree state1 state2).1,
          .value (ctx.testRule mode memo rule tree state1 state2).2)) ∨
    (∃ s ∈ (ctx.answering state1 state2).treeSteps mode rule tree,
        ctx.escapes log state1 state2 s = true) ∧
      (ctx.testRuleLogged log mode memo rule tree state1 state2).2 = .fault := by
  have hagrees : AgreesBut (ctx.escapes log state1 state2)
      ((ctx.answering state1 state2).treeSteps mode rule tree)
      (walkRule (ctx.testClauseLogged log mode state1 state2) mode memo rule tree)
      (ctx.testRule mode memo rule tree state1 state2) := by
    cases tree with
    | none => exact (walkAll_agrees rule.clausesAt ⟨memo, .start⟩).map rfl
    | some e => exact (walk_agrees e ⟨memo, .start⟩).map rfl
  rw [testRuleLogged]
  rcases hagrees with ⟨hsteps, hresult⟩ | ⟨hsteps, left, hresult⟩
  · exact .inl ⟨hsteps, by rw [hresult]⟩
  · exact .inr ⟨hsteps, by rw [hresult]⟩

end Context

end RuleMatching
