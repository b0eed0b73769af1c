import RuleMatching.Proofs.Evaluation.Run

/-!
Evaluating a rule from the answers of its clauses.  How clauses are answered is given as a function
of a clause and the captures before it, and nothing is remembered.  A matcher evaluates a rule in just
this way from the answers of its context, so what it remembers has no influence: `Matcher.run_snd`
and `Matcher.evaluate_snd`.
-/

set_option autoImplicit false
set_option relaxedAutoImplicit false

namespace RuleMatching

/-- How clauses are answered, with the captures that came before in the rule. -/
abbrev Answering := Clause → List Capture → Answer

namespace Answering

variable (answering : Answering) (mode : Mode) (rule : Rule)

/-- How far an evaluation has come after a clause, and whether the clause applies. -/
def clauseValue (name : String) (c : ClauseAt) (p : Progress) : Progress × Bool :=
  let a := answering c.clause (p.captures.map (·.capture))
  (p.addAnswer mode.traced name c a, a.applies)

/-- Whether all clauses apply; the first that does not is the last that is answered. -/
def allValue : List ClauseAt → Progress → Progress × Bool
  | [], p => (p, true)
  | c :: cs, p =>
      match answering.clauseValue mode (Numeral.text c.index) c p with
      | (p, true) => allValue cs p
      | (p, false) => (p.note mode.traced (Progress.failureLine c.index), false)

/-- The value of an expression over the clauses of a rule. -/
def value : Expression → Progress → Progress × Except RuleError Bool
  | .operand label, p =>
      match rule.resolve label with
      | .error e => (p, .error e)
      | .ok c =>
          let (p, v) := answering.clauseValue mode label c p
          (p, .ok v)
  | .negation e, p =>
      let (p, v) := value e p
      (p, v.map (!·))
  | .group e, p =>
      match value e p with
      | (q, .ok false) => (q.keepCaptures p.captures.length, .ok false)
      | (q, v) => (q, v)
  | .join l operator r, p =>
      match value l p with
      | (p, .error e) => (p, .error e)
      | (p, .ok left) =>
          match Context.skipped? mode rule left operator r with
          | some v => (p.addShortCircuit mode.traced operator left v, .ok v)
          | none =>
              let (p, right) := value r p
              (p, right.map (operator.apply left))

/-- The evaluation of a rule, whatever its target is. -/
def evaluation : Except RuleError Evaluation :=
  match rule.expression with
  | none =>
      let (p, matched) := answering.allValue mode rule.clausesAt .start
      .ok ⟨matched, p⟩
  | some text =>
      match Expression.read text with
      | .error flaw => .error (.invalidExpression text flaw)
      | .ok tree =>
          let (p, v) := answering.value mode rule tree .start
          v.map fun matched => ⟨matched, p⟩

end Answering

namespace Context

/-- The answers of a context on two states. -/
def answering (ctx : Context) (state1 state2 : Option State) : Answering := fun c before =>
  ctx.clauseAnswer c state1 state2 before

variable {ctx : Context} {mode : Mode} {rule : Rule} {state1 state2 : Option State}

/-- Testing clauses comes to what their answers say. -/
theorem testAll_eq (cs : List ClauseAt) (run : Run ctx.sizeLimit) :
    ∃ memo, ctx.testAll mode state1 state2 cs run =
      (⟨memo, ((ctx.answering state1 state2).allValue mode cs run.progress).1⟩,
        ((ctx.answering state1 state2).allValue mode cs run.progress).2) := by
  induction cs generalizing run with
  | nil => exact ⟨run.memo, rfl⟩
  | cons c cs ih =>
    obtain ⟨memo, hclause⟩ :=
      testClause_eq ctx mode state1 state2 (Numeral.text c.index) c run
    simp only [testAll_cons, hclause, Answering.allValue, Answering.clauseValue, answering]
    cases (ctx.clauseAnswer c.clause state1 state2 (run.progress.captures.map (·.capture))).applies
    · exact ⟨memo, rfl⟩
    · exact ih _

/-- Evaluating an expression comes to what the answers of its clauses say. -/
theorem testExpression_eq (e : Expression) (run : Run ctx.sizeLimit) :
    ∃ memo, ctx.testExpression mode rule state1 state2 e run =
      (⟨memo, ((ctx.answering state1 state2).value mode rule e run.progress).1⟩,
        ((ctx.answering state1 state2).value mode rule e run.progress).2) := by
  induction e generalizing run with
  | operand l =>
    rw [testExpression_operand, Answering.value]
    cases rule.resolve l with
    | error err => exact ⟨run.memo, rfl⟩
    | ok c =>
      obtain ⟨memo, hclause⟩ := testClause_eq ctx mode state1 state2 l c run
      exact ⟨memo, by simp only [hclause]; rfl⟩
  | negation e ih =>
    obtain ⟨memo, he⟩ := ih run
    exact ⟨memo, by rw [testExpression_negation, Answering.value, he]⟩
  | group e ih =>
    obtain ⟨memo, he⟩ := ih run
    refine ⟨memo, ?_⟩
    rw [testExpression_group, Answering.value, he]
    rcases (ctx.answering state1 state2).value mode rule e run.progress with ⟨p, err | v⟩
    · rfl
    · cases v <;> rfl
  | join l o r ihl ihr =>
    obtain ⟨memo, hl⟩ := ihl run
    rw [testExpression_join, Answering.value, hl]
    rcases (ctx.answering state1 state2).value mode rule l run.progress with ⟨p, err | left⟩
    · exact ⟨memo, rfl⟩
    · cases hskip : skipped? mode rule left o r with
      | some v => exact ⟨memo, by simp only [hskip]⟩
      | none =>
        obtain ⟨memo', hr⟩ := ihr ⟨memo, p⟩
        exact ⟨memo', by simp only [hskip, hr]⟩

/-- What a rule comes to on two states: it matches only if it is for them and can be evaluated. -/
def evaluationOf (ctx : Context) (mode : Mode) (rule : Rule) (state1 state2 : Option State) :
    Evaluation :=
  match rule.isFor state1 state2, (ctx.answering state1 state2).evaluation mode rule with
  | .value true, .ok ev => ev
  | _, _ => .noMatch

end Context

namespace Matcher

/-- Running a rule comes to what the answers of its clauses say, whatever is in memory. -/
theorem run_snd (m : Matcher) (mode : Mode) (r : Rule) (state1 state2 : Option State) :
    (m.run mode r state1 state2).2 = (m.context.answering state1 state2).evaluation mode r := by
  rw [Answering.evaluation]
  cases htext : r.expression with
  | none =>
    obtain ⟨memo, hall⟩ := @Context.testAll_eq m.context mode state1 state2 r.clausesAt
      ⟨m.patterns, .start⟩
    have hrule := m.context.testRule_none mode r state1 state2 m.patterns
    simp only [run, htext, runTree, hrule, hall]
    rfl
  | some text =>
    cases hread : Expression.read text with
    | error f => simp only [hread, run_of_read_eq_error htext hread]
    | ok tree =>
      obtain ⟨memo, htree⟩ := @Context.testExpression_eq m.context mode r state1 state2 tree
        ⟨m.patterns, .start⟩
      simp only [hread, run_of_read_eq_ok htext hread, htree]
      rfl

/-- Evaluating a rule comes to the same whatever is in memory. -/
theorem evaluate_snd (m : Matcher) (r : Rule) (state1 state2 : Option State) :
    (m.evaluate r state1 state2).2 = m.context.evaluationOf m.mode r state1 state2 := by
  rw [evaluate, Context.evaluationOf, ← run_snd]
  cases r.isFor state1 state2 with
  | fault => rfl
  | value isFor =>
    cases isFor with
    | false => rfl
    | true => rcases m.run m.mode r state1 state2 with ⟨m', err | ev⟩ <;> rfl

/-- A clause is answered in the same way whatever is in memory. -/
theorem answerClause_snd (m : Matcher) (c : Clause) (state1 state2 : Option State)
    (before : List Capture) :
    (m.answerClause c state1 state2 before).2 = m.context.clauseAnswer c state1 state2 before := by
  rw [Context.clauseAnswer, Context.answerClause_snd m.context .empty m.patterns]
  rfl

theorem isMatch_snd (m : Matcher) (r : Rule) (state1 state2 : Option State) :
    (m.isMatch r state1 state2).2 = (m.context.evaluationOf m.mode r state1 state2).matched := by
  rw [← evaluate_snd]
  rfl

theorem captures?_snd (m : Matcher) (r : Rule) (state1 state2 : Option State) :
    (m.captures? r state1 state2).2 =
      (m.context.evaluationOf m.mode r state1 state2).captures? := by
  rw [← evaluate_snd]
  rfl

end Matcher

end RuleMatching
