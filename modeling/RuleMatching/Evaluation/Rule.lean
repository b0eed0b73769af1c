import RuleMatching.Evaluation
import RuleMatching.Evaluation.Clause

/-!
Evaluating a rule.  The expression is walked from left to right.  An operand whose value the left
side settles is passed over, unless it has captures to give; and what was captured inside a group
counts only if the group is true.
-/

set_option autoImplicit false
set_option relaxedAutoImplicit false

namespace RuleMatching.Context

/-- What an evaluation carries along: the patterns in memory, and how far it has come. -/
structure Run (sizeLimit : Option Nat) where
  memo : PatternMemo sizeLimit
  progress : Progress

/-- How a clause of a rule, which is called by a name, is tested in a run. -/
abbrev Test (M : Type → Type) (sizeLimit : Option Nat) :=
  String → ClauseAt → Run sizeLimit → M (Run sizeLimit × Bool)

/-- The value of an operand of a chain that is passed over, if it is. -/
def skipped? (mode : Mode) (rule : Rule) (left : Bool) (operator : BoolOperator)
    (right : Expression) : Option Bool :=
  if mode.shortCircuit && !rule.mayCaptureIn right then operator.decided? left else none

/-- The evaluation of a rule that has come to an end. -/
def finished {limit : Option Nat} : Run limit × Except RuleError Bool →
    PatternMemo limit × Except RuleError Evaluation
  | (run, value) => (run.memo, value.map fun matched => ⟨matched, run.progress⟩)

section

variable {M : Type → Type} [Monad M] {limit : Option Nat}

/-- Tests clauses up to the first that does not apply. -/
def walkAll (test : Test M limit) (mode : Mode) :
    List ClauseAt → Run limit → M (Run limit × Bool)
  | [], run => pure (run, true)
  | c :: cs, run => do
      match ← test (Numeral.text c.index) c run with
      | (run, true) => walkAll test mode cs run
      | (run, false) =>
          pure ({ run with
            progress := run.progress.note mode.traced (Progress.failureLine c.index) }, false)

/-- Evaluates an expression over the clauses of a rule. -/
def walk (test : Test M limit) (mode : Mode) (rule : Rule) :
    Expression → Run limit → M (Run limit × Except RuleError Bool)
  | .operand label, run =>
      match rule.resolve label with
      | .error e => pure (run, .error e)
      | .ok c => do
          let (run, value) ← test label c run
          pure (run, .ok value)
  | .negation e, run => do
      let (run, value) ← walk test mode rule e run
      pure (run, value.map (!·))
  | .group e, run => do
      let mark := run.progress.captures.length
      match ← walk test mode rule e run with
      | (run, .ok false) =>
          pure ({ run with progress := run.progress.keepCaptures mark }, .ok false)
      | (run, value) => pure (run, value)
  | .join l operator r, run => do
      match ← walk test mode rule l run with
      | (run, .error e) => pure (run, .error e)
      | (run, .ok left) =>
          match skipped? mode rule left operator r with
          | some value =>
              let progress := run.progress.addShortCircuit mode.traced operator left value
              pure ({ run with progress := progress }, .ok value)
          | none => do
              let (run, right) ← walk test mode rule r run
              pure (run, right.map (operator.apply left))

/-- Evaluates a rule with the tree that its expression was read as, or without an expression.  A
rule without an expression matches if all its clauses apply. -/
def walkRule (test : Test M limit) (mode : Mode) (memo : PatternMemo limit) (rule : Rule) :
    Option Expression → M (PatternMemo limit × Except RuleError Evaluation)
  | none => do
      let (run, matched) ← walkAll test mode rule.clausesAt ⟨memo, .start⟩
      pure (finished (run, .ok matched))
  | some e => do
      let result ← walk test mode rule e ⟨memo, .start⟩
      pure (finished result)

end

/-! ### Evaluation up to a fault that gets out -/

/-- Evaluates a clause of a rule.  If its fault gets out, the patterns in memory are left. -/
def testClauseLogged (ctx : Context) (log : Log) (mode : Mode) (state1 state2 : Option State) :
    Test (Except (PatternMemo ctx.sizeLimit)) ctx.sizeLimit := fun name c run =>
  let before := run.progress.captures.map (·.capture)
  match ctx.answerLogged log run.memo c.clause state1 state2 before with
  | (memo, .value a) => .ok (⟨memo, run.progress.addAnswer mode.traced name c a⟩, a.applies)
  | (memo, .fault) => .error memo

def testRuleLogged (ctx : Context) (log : Log) (mode : Mode) (memo : PatternMemo ctx.sizeLimit)
    (rule : Rule) (tree : Option Expression) (state1 state2 : Option State) :
    PatternMemo ctx.sizeLimit × Outcome (Except RuleError Evaluation) :=
  match walkRule (ctx.testClauseLogged log mode state1 state2) mode memo rule tree with
  | .error memo => (memo, .fault)
  | .ok (memo, result) => (memo, .value result)

/-! ### Evaluation as far as faults can be written to the log -/

/-- Evaluates a clause of a rule, which is called by a name. -/
def testClause (ctx : Context) (mode : Mode) (state1 state2 : Option State) (name : String)
    (c : ClauseAt) (run : Run ctx.sizeLimit) : Run ctx.sizeLimit × Bool :=
  let before := run.progress.captures.map (·.capture)
  let (memo, a) := ctx.answerClause run.memo c.clause state1 state2 before
  (⟨memo, run.progress.addAnswer mode.traced name c a⟩, a.applies)

def testAll (ctx : Context) (mode : Mode) (state1 state2 : Option State) (cs : List ClauseAt)
    (run : Run ctx.sizeLimit) : Run ctx.sizeLimit × Bool :=
  Id.run (walkAll (ctx.testClause mode state1 state2) mode cs run)

def testExpression (ctx : Context) (mode : Mode) (rule : Rule) (state1 state2 : Option State)
    (e : Expression) (run : Run ctx.sizeLimit) : Run ctx.sizeLimit × Except RuleError Bool :=
  Id.run (walk (ctx.testClause mode state1 state2) mode rule e run)

def testRule (ctx : Context) (mode : Mode) (memo : PatternMemo ctx.sizeLimit) (rule : Rule)
    (tree : Option Expression) (state1 state2 : Option State) :
    PatternMemo ctx.sizeLimit × Except RuleError Evaluation :=
  Id.run (walkRule (ctx.testClause mode state1 state2) mode memo rule tree)

section

variable (ctx : Context) (mode : Mode) (rule : Rule) (state1 state2 : Option State)
  (run : Run ctx.sizeLimit)

@[simp] theorem testAll_nil : ctx.testAll mode state1 state2 [] run = (run, true) := rfl

theorem testAll_cons (c : ClauseAt) (cs : List ClauseAt) :
    ctx.testAll mode state1 state2 (c :: cs) run =
      match ctx.testClause mode state1 state2 (Numeral.text c.index) c run with
      | (run, true) => ctx.testAll mode state1 state2 cs run
      | (run, false) =>
          ({ run with
              progress := run.progress.note mode.traced (Progress.failureLine c.index) },
            false) := by
  simp only [testAll, walkAll, Id.run_bind]
  rcases ctx.testClause mode state1 state2 (Numeral.text c.index) c run with ⟨q, _ | _⟩ <;> rfl

theorem testExpression_operand (label : String) :
    ctx.testExpression mode rule state1 state2 (.operand label) run =
      match rule.resolve label with
      | .error e => (run, .error e)
      | .ok c =>
          let (run, value) := ctx.testClause mode state1 state2 label c run
          (run, .ok value) := by
  rw [testExpression, walk]
  cases rule.resolve label <;> rfl

theorem testExpression_negation (e : Expression) :
    ctx.testExpression mode rule state1 state2 (.negation e) run =
      let (run, value) := ctx.testExpression mode rule state1 state2 e run
      (run, value.map (!·)) := rfl

theorem testExpression_group (e : Expression) :
    ctx.testExpression mode rule state1 state2 (.group e) run =
      match ctx.testExpression mode rule state1 state2 e run with
      | (q, .ok false) =>
          ({ q with progress := q.progress.keepCaptures run.progress.captures.length }, .ok false)
      | (q, value) => (q, value) := by
  simp only [testExpression, walk, Id.run_bind]
  rcases Id.run (walk (ctx.testClause mode state1 state2) mode rule e run) with ⟨q, _ | _ | _⟩ <;> rfl

theorem testExpression_join (l : Expression) (operator : BoolOperator) (r : Expression) :
    ctx.testExpression mode rule state1 state2 (.join l operator r) run =
      match ctx.testExpression mode rule state1 state2 l run with
      | (run, .error e) => (run, .error e)
      | (run, .ok left) =>
          match skipped? mode rule left operator r with
          | some value =>
              let progress := run.progress.addShortCircuit mode.traced operator left value
              ({ run with progress := progress }, .ok value)
          | none =>
              let (run, right) := ctx.testExpression mode rule state1 state2 r run
              (run, right.map (operator.apply left)) := by
  simp only [testExpression, walk, Id.run_bind]
  rcases Id.run (walk (ctx.testClause mode state1 state2) mode rule l run) with ⟨q, _ | left⟩
  · rfl
  · cases hskip : skipped? mode rule left operator r <;> simp only [hskip] <;> rfl

theorem testRule_none (memo : PatternMemo ctx.sizeLimit) :
    ctx.testRule mode memo rule none state1 state2 =
      let (run, matched) := ctx.testAll mode state1 state2 rule.clausesAt ⟨memo, .start⟩
      finished (run, .ok matched) := rfl

end

end RuleMatching.Context
