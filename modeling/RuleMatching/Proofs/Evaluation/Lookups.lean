import RuleMatching.Proofs.Evaluation.Trace
import RuleMatching.Proofs.Memo

/-!
The patterns that evaluations look up.  A clause looks its pattern up if it asks for one on the states
that stand at its field: `Context.patternLookedUp_eq_some_iff`.  An evaluation looks up the patterns of
the clauses that it tests, in order, and leaves nothing else in memory, also where it goes wrong:
`Context.testRule_fst`.
-/

set_option autoImplicit false
set_option relaxedAutoImplicit false

namespace RuleMatching

/-- The clause that a step tests. -/
def Step.clause? : Step → Option Clause
  | tested _ c _ _ => some c.clause
  | passedOver _ _ _ _ => none

namespace Answering

variable (answering : Answering) (mode : Mode) (r : Rule)

/-- The clauses that are tested for a rule with the tree of its expression, or without an expression. -/
def treeTested (tree : Option Expression) : List Clause :=
  (answering.treeSteps mode r tree).filterMap Step.clause?

/-- The clauses that are tested in evaluating a rule, whatever its target is. -/
def clausesTested : List Clause := (answering.ruleSteps mode r).filterMap Step.clause?

end Answering

namespace Context

variable {ctx : Context} {mode : Mode} {rule : Rule} {state1 state2 : Option State}

/-- The pattern that a clause looks up on two states. -/
def patternLookedUp (ctx : Context) (state1 state2 : Option State) (c : Clause) : Option String :=
  match ctx.resolveBoth c state1 state2 with
  | .fault => none
  | .value r => patternAsked c r.1 r.2

/-- The patterns that clauses look up on two states, in order. -/
def patternsLookedUp (ctx : Context) (state1 state2 : Option State) (cs : List Clause) :
    List String :=
  cs.filterMap (ctx.patternLookedUp state1 state2)

/-- A clause looks up any of its data as one pattern.  It does so just if it asks whether a pattern
occurs, has data, and can be resolved on the states to at least one that is there. -/
theorem patternLookedUp_eq_some_iff {c : Clause} {text : String} :
    ctx.patternLookedUp state1 state2 c = some text ↔
      c.operation = .regex ∧ c.data ≠ [] ∧ Text.joinWith "|" c.data = text ∧
        ∃ r1 r2, ctx.resolveBoth c state1 state2 = .value (r1, r2) ∧
          (r1.isSome = true ∨ r2.isSome = true) := by
  have hpresent : ∀ r1 r2 : Option State, (!(Judgement.present r1 r2).isEmpty) = true ↔
      r1.isSome = true ∨ r2.isSome = true := by
    rintro (_ | s1) (_ | s2) <;> simp [Judgement.present]
  rw [patternLookedUp]
  cases ctx.resolveBoth c state1 state2 with
  | fault => simp
  | value r =>
    simp only [patternAsked, Option.ite_none_right_eq_some, hpresent, Judgement.patternText,
      Outcome.value.injEq, Option.some.injEq, Bool.not_eq_true', List.isEmpty_eq_false_iff]
    constructor
    · rintro ⟨⟨hregex, hdata, hsome⟩, htext⟩
      exact ⟨hregex, hdata, htext, r.1, r.2, rfl, hsome⟩
    · rintro ⟨hregex, hdata, htext, r1, r2, rfl, hsome⟩
      exact ⟨⟨hregex, hdata, hsome⟩, htext⟩

/-- Answering a clause leaves the pattern in memory that it looks up. -/
theorem answerClause_fst (memo : PatternMemo ctx.sizeLimit) (c : Clause) (before : List Capture) :
    (ctx.answerClause memo c state1 state2 before).1 =
      memo.lookUpAll (ctx.patternLookedUp state1 state2 c).toList := by
  rw [answerClause_eq, patternLookedUp]
  cases ctx.resolveBoth c state1 state2 with
  | fault => rfl
  | value r =>
    cases hasked : patternAsked c r.1 r.2 with
    | none => simp only [hasked]; rfl
    | some text => simp only [hasked]; rfl

/-- Testing a clause looks up its pattern, adds its answer and comes to whether it applies. -/
theorem testClause_eq_lookUpAll (name : String) (c : ClauseAt) (run : Run ctx.sizeLimit) :
    ctx.testClause mode state1 state2 name c run =
      (⟨run.memo.lookUpAll (ctx.patternsLookedUp state1 state2 [c.clause]),
          ((ctx.answering state1 state2).clauseValue mode name c run.progress).1⟩,
        ((ctx.answering state1 state2).clauseValue mode name c run.progress).2) := by
  have hpattern : ctx.patternsLookedUp state1 state2 [c.clause] =
      (ctx.patternLookedUp state1 state2 c.clause).toList := by
    rw [patternsLookedUp, List.filterMap_cons, List.filterMap_nil]
    cases ctx.patternLookedUp state1 state2 c.clause <;> rfl
  have hanswer : (ctx.answerClause run.memo c.clause state1 state2
      (run.progress.captures.map (·.capture))).2 =
        ctx.answering state1 state2 c.clause (run.progress.captures.map (·.capture)) :=
    ctx.answerClause_snd run.memo .empty c.clause state1 state2 _
  rw [hpattern, ← answerClause_fst run.memo c.clause (run.progress.captures.map (·.capture)),
    Answering.clauseValue, ← hanswer]
  rfl

/-- Testing clauses one after the other looks up the patterns of those tested. -/
theorem testAll_memo (cs : List ClauseAt) (run : Run ctx.sizeLimit) :
    (ctx.testAll mode state1 state2 cs run).1.memo = run.memo.lookUpAll
      (ctx.patternsLookedUp state1 state2
        (((ctx.answering state1 state2).allSteps mode cs run.progress).filterMap
          Step.clause?)) := by
  induction cs generalizing run with
  | nil => rfl
  | cons c cs ih =>
    rw [testAll_cons, testClause_eq_lookUpAll, Answering.allSteps]
    rcases (ctx.answering state1 state2).clauseValue mode (Numeral.text c.index) c run.progress
      with ⟨p, _ | _⟩
    · rfl
    · simp only [ih]
      rw [← Memo.lookUpAll_append, patternsLookedUp, patternsLookedUp, ← List.filterMap_append]
      rfl

/-- Evaluating an expression looks up the patterns of the clauses tested in its steps, whatever it comes
to. -/
theorem testExpression_memo (e : Expression) (run : Run ctx.sizeLimit) :
    (ctx.testExpression mode rule state1 state2 e run).1.memo = run.memo.lookUpAll
      (ctx.patternsLookedUp state1 state2
        (((ctx.answering state1 state2).steps mode rule e run.progress).filterMap
          Step.clause?)) := by
  induction e generalizing run with
  | operand l =>
    rw [testExpression_operand, Answering.steps]
    cases rule.resolve l with
    | error err => rfl
    | ok c => simp only [testClause_eq_lookUpAll]; rfl
  | negation e ih =>
    rw [testExpression_negation, Answering.steps]
    exact ih run
  | group e ih =>
    rw [testExpression_group, Answering.steps, ← ih run]
    rcases ctx.testExpression mode rule state1 state2 e run with ⟨run', err | v⟩
    · rfl
    · cases v <;> rfl
  | join l o r ihl ihr =>
    have hl := ihl run
    -- How far the left side has come decides whether the right side is tested, and with which captures.
    obtain ⟨memo, hvalue⟩ := @testExpression_eq ctx mode rule state1 state2 l run
    rw [testExpression_join, Answering.steps, hvalue]
    rw [hvalue] at hl
    rcases (ctx.answering state1 state2).value mode rule l run.progress with ⟨p, err | left⟩
    · simpa using hl
    · cases hskip : skipped? mode rule left o r with
      | some v =>
        simp only [hskip]
        rw [List.filterMap_append, List.filterMap_cons_none rfl, List.filterMap_nil,
          List.append_nil]
        exact hl
      | none =>
        simp only [hskip, List.filterMap_append]
        rw [patternsLookedUp, List.filterMap_append, Memo.lookUpAll_append]
        exact (ihr ⟨memo, p⟩).trans (congrArg (fun memo => Memo.lookUpAll memo _) hl)

/-- Evaluating a rule looks up the patterns of the clauses tested, whatever it comes to. -/
theorem testRule_fst (memo : PatternMemo ctx.sizeLimit) (tree : Option Expression) :
    (ctx.testRule mode memo rule tree state1 state2).1 = memo.lookUpAll
      (ctx.patternsLookedUp state1 state2
        ((ctx.answering state1 state2).treeTested mode rule tree)) := by
  cases tree with
  | none => exact testAll_memo rule.clausesAt ⟨memo, .start⟩
  | some e => exact testExpression_memo e ⟨memo, .start⟩

end Context

end RuleMatching
