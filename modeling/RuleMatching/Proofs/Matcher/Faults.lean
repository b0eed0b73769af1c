import RuleMatching.Proofs.Evaluation.Faults
import RuleMatching.Proofs.Matcher.Memory

/-!
Faults that get out of a rule.  Evaluating a rule with a log comes to what it comes to without one, in
memory as well, unless a fault gets out: `runLogged_cases` and `evaluateLogged_snd`.  Whether one does depends
on the clauses that are tested and on the log, and not on what is in memory.  If nobody reads the log, none
does: `evaluateLogged_silent`.
-/

set_option autoImplicit false
set_option relaxedAutoImplicit false

namespace RuleMatching

/-- What a rule comes to on two states if a fault may get out. -/
def Context.outcomeOf (ctx : Context) (log : Log) (mode : Mode) (rule : Rule)
    (state1 state2 : Option State) : Outcome Evaluation :=
  if rule.isFor state1 state2 = .value true ∧ ctx.escapesFrom log mode rule state1 state2 = true then
    .fault
  else .value (ctx.evaluationOf mode rule state1 state2)

/-- A rule that no fault gets out of comes to what it comes to without a log. -/
theorem Context.outcomeOf_eq_of_ne_fault {ctx : Context} {log : Log} {mode : Mode} {rule : Rule}
    {state1 state2 : Option State} (h : ctx.outcomeOf log mode rule state1 state2 ≠ .fault) :
    ctx.outcomeOf log mode rule state1 state2 =
      .value (ctx.evaluationOf mode rule state1 state2) := by
  unfold outcomeOf at h ⊢
  split at h
  · exact absurd rfl h
  · rename_i hno
    rw [if_neg hno]

theorem Context.outcomeOf_of_faultsWritten {ctx : Context} {log : Log} {mode : Mode} {rule : Rule}
    {state1 state2 : Option State} (h : ctx.FaultsWritten log mode rule state1 state2) :
    ctx.outcomeOf log mode rule state1 state2 =
      .value (ctx.evaluationOf mode rule state1 state2) := by
  rw [outcomeOf, escapesFrom_eq_false_iff.mpr h, if_neg (by simp)]

namespace Matcher

variable (m : Matcher) (log : Log) (mode : Mode) (r : Rule) (state1 state2 : Option State)

/-- A clause is answered with a log as without one, unless a fault gets out. -/
theorem answerClauseLogged_eq (c : Clause) (before : List Capture) :
    m.answerClauseLogged log c state1 state2 before =
      ((m.answerClause c state1 state2 before).1,
        if (m.context.uncontained c state1 state2 before).isFault &&
            (log.report state1 state2).isFault then .fault
        else .value (m.answerClause c state1 state2 before).2) := by
  have hanswer := @Context.answerLogged_eq m.context state1 state2 log m.patterns c before
  exact congrArg (fun p => (({ m with patterns := p.1 } : Matcher), p.2)) hanswer

theorem eqUpToMemory_runLogged : m.EqUpToMemory (m.runLogged log mode r state1 state2).1 := by
  rw [runLogged]
  cases r.expression with
  | none => exact ⟨rfl, rfl, rfl⟩
  | some text =>
    simp only [lookUpExpression, Memo.lookUp_snd]
    cases Expression.read text with
    | error f => exact ⟨rfl, rfl, rfl⟩
    | ok tree => exact ⟨rfl, rfl, rfl⟩

theorem eqUpToMemory_evaluateLogged :
    m.EqUpToMemory (m.evaluateLogged log r state1 state2).1 := by
  have hrun := m.eqUpToMemory_runLogged log m.mode r state1 state2
  rw [evaluateLogged]
  split
  · rcases hresult : m.runLogged log m.mode r state1 state2 with ⟨m', (err | ev) | _⟩ <;>
      simpa only [hresult] using hrun
  · exact .refl m

theorem runTreeLogged_cases (tree : Option Expression) :
    (((m.context.answering state1 state2).treeSteps mode r tree).any
        (m.context.escapes log state1 state2) = false ∧
      m.runTreeLogged log mode r tree state1 state2 =
        ((m.runTree mode r tree state1 state2).1,
          .value (m.runTree mode r tree state1 state2).2)) ∨
    ((m.context.answering state1 state2).treeSteps mode r tree).any
        (m.context.escapes log state1 state2) = true ∧
      (m.runTreeLogged log mode r tree state1 state2).2 = .fault := by
  simp only [List.any_eq_false, Bool.not_eq_true, List.any_eq_true, runTreeLogged, runTree]
  rcases @Context.testRuleLogged_cases m.context mode r state1 state2 log m.patterns tree with
    ⟨hsteps, hresult⟩ | ⟨hsteps, hresult⟩
  · exact .inl ⟨hsteps, by rw [hresult]⟩
  · exact .inr ⟨hsteps, hresult⟩

/-- Running a rule with a log comes to what it comes to without one, or a fault gets out. -/
theorem runLogged_cases :
    (m.context.escapesFrom log mode r state1 state2 = false ∧
      m.runLogged log mode r state1 state2 =
        ((m.run mode r state1 state2).1, .value (m.run mode r state1 state2).2)) ∨
    m.context.escapesFrom log mode r state1 state2 = true ∧
      (m.runLogged log mode r state1 state2).2 = .fault := by
  rw [runLogged, run, Context.escapesFrom, Answering.ruleSteps]
  cases r.expression with
  | none => exact m.runTreeLogged_cases log mode r state1 state2 none
  | some text =>
    simp only [lookUpExpression, Memo.lookUp_snd]
    cases Expression.read text with
    | error f => exact .inl ⟨rfl, rfl⟩
    | ok tree =>
      exact runTreeLogged_cases { m with expressions := (m.expressions.lookUp text).1 } log mode r
        state1 state2 (some tree)

section

variable {m log mode r state1 state2}

/-- If the faults can be written to the log, a rule is run as without one, in memory as well. -/
theorem runLogged_of_faultsWritten (h : m.context.FaultsWritten log mode r state1 state2) :
    m.runLogged log mode r state1 state2 =
      ((m.run mode r state1 state2).1, .value (m.run mode r state1 state2).2) := by
  rcases m.runLogged_cases log mode r state1 state2 with ⟨-, hrun⟩ | ⟨hescapes, -⟩
  · exact hrun
  · rw [Context.escapesFrom_eq_false_iff.mpr h] at hescapes
    cases hescapes

theorem evaluateLogged_of_faultsWritten
    (h : m.context.FaultsWritten log m.mode r state1 state2) :
    m.evaluateLogged log r state1 state2 =
      ((m.evaluate r state1 state2).1, .value (m.evaluate r state1 state2).2) := by
  rw [evaluateLogged, evaluate, runLogged_of_faultsWritten h]
  cases r.isFor state1 state2 with
  | fault => rfl
  | value isFor =>
    cases isFor with
    | false => rfl
    | true => rcases m.run m.mode r state1 state2 with ⟨m', err | ev⟩ <;> rfl

end

/-- Without a log no fault gets out of a rule. -/
theorem evaluateLogged_silent :
    m.evaluateLogged .silent r state1 state2 =
      ((m.evaluate r state1 state2).1, .value (m.evaluate r state1 state2).2) :=
  evaluateLogged_of_faultsWritten Context.faultsWritten_silent

/-- Evaluating a rule with a log comes to the same whatever is in memory. -/
theorem evaluateLogged_snd :
    (m.evaluateLogged log r state1 state2).2 =
      m.context.outcomeOf log m.mode r state1 state2 := by
  rw [evaluateLogged, Context.outcomeOf, ← evaluate_snd, evaluate]
  cases r.isFor state1 state2 with
  | fault => rfl
  | value isFor =>
    cases isFor with
    | false => rfl
    | true =>
      rcases m.runLogged_cases log m.mode r state1 state2 with ⟨hescapes, hrun⟩ | ⟨hescapes, hrun⟩
      · simp only [hrun, hescapes, Bool.false_eq_true, and_false, if_false]
        rcases m.run m.mode r state1 state2 with ⟨m', err | ev⟩ <;> rfl
      · rw [if_pos ⟨rfl, hescapes⟩]
        rcases hresult : m.runLogged log m.mode r state1 state2 with ⟨m', result⟩
        obtain rfl : result = .fault := by rw [hresult] at hrun; exact hrun
        rfl

theorem isMatchLogged_snd :
    (m.isMatchLogged log r state1 state2).2 =
      (m.context.outcomeOf log m.mode r state1 state2).andThen fun e => .value e.matched := by
  rw [← evaluateLogged_snd]
  rfl

theorem capturesLogged?_snd :
    (m.capturesLogged? log r state1 state2).2 =
      (m.context.outcomeOf log m.mode r state1 state2).andThen fun e => .value e.captures? := by
  rw [← evaluateLogged_snd]
  rfl

end Matcher

end RuleMatching
