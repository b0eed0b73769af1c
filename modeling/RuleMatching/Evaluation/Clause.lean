import RuleMatching.Extension
import RuleMatching.Log
import RuleMatching.Memo
import RuleMatching.Judgement.BuiltIn

/-!
Evaluating a clause.  The field of the clause is looked up in the states, and what is found there is
given to the operation.  A fault of an extension is caught here: it is written to the log with the
states, and the clause does not apply.  It goes on only if writing the states to the log faults in turn.
Patterns are kept in a memory, which has no influence on the answer: `answerClause_snd`.
-/

set_option autoImplicit false
set_option relaxedAutoImplicit false

namespace RuleMatching

/-- What clauses are evaluated with: the extensions, the time, and the limit on patterns. -/
structure Context where
  registry : Registry
  now : Instant
  sizeLimit : Option Nat

/-- The patterns that have been read under a limit, and the texts that are no patterns. -/
abbrev PatternMemo (sizeLimit : Option Nat) := Memo (Pattern.ofText? sizeLimit)

namespace Context

/-- What stands at a path in a state that may be missing. -/
def resolve (ctx : Context) (path : String) : Option State → Outcome (Option State)
  | none => .value none
  | some s => s.follow ctx.registry.propertyReaders path

/-- The states that a clause looks at. -/
def resolveBoth (ctx : Context) (c : Clause) (state1 state2 : Option State) :
    Outcome (Option State × Option State) :=
  let path := c.field.getD ""
  (ctx.resolve path state1).andThen fun r1 =>
    (ctx.resolve path state2).andThen fun r2 => .value (r1, r2)

/-- The pattern that a clause asks for on resolved states, if it comes to that. -/
def patternAsked (c : Clause) (state1 state2 : Option State) : Option String :=
  if c.operation = .regex ∧ !c.data.isEmpty ∧ !(Judgement.present state1 state2).isEmpty then
    some (Judgement.patternText c)
  else none

/-- The answer of the custom operation that claims a clause.  There is no match without one, or if
its answer goes wrong. -/
def customAnswer (ctx : Context) (c : Clause) (state1 state2 : Option State)
    (captures : List Capture) : Outcome Answer :=
  (claimant c ctx.registry.operations).andThen fun
    | none => .value .noMatch
    | some o => (o.answer c state1 state2 captures ctx.registry.services).andThen fun
      | .ok a => .value a
      | .error _ => .value .noMatch

/-- The answer of a clause on resolved states, with its pattern read. -/
def answer (ctx : Context) (pattern : Option Pattern) (c : Clause) (state1 state2 : Option State)
    (captures : List Capture) : Outcome Answer :=
  if c.operation = .custom then ctx.customAnswer c state1 state2 captures
  else
    (Judgement.ofClause ctx.registry.reducers ctx.now pattern c state1 state2).andThen
      fun v => .value (Judgement.answer c state1 state2 v)

/-- Looks up the pattern that a clause asks for. -/
def lookUpPattern {limit : Option Nat} (memo : PatternMemo limit) :
    Option String → PatternMemo limit × Option Pattern
  | none => (memo, none)
  | some text => memo.lookUp text

/-- Evaluates a clause, with the captures that came before in its rule, up to the catching of
faults. -/
def dispatch (ctx : Context) (memo : PatternMemo ctx.sizeLimit) (c : Clause)
    (state1 state2 : Option State) (captures : List Capture) :
    PatternMemo ctx.sizeLimit × Outcome Answer :=
  match ctx.resolveBoth c state1 state2 with
  | .fault => (memo, .fault)
  | .value (r1, r2) =>
      let found := lookUpPattern memo (patternAsked c r1 r2)
      (found.1, ctx.answer found.2 c r1 r2 captures)

/-- Evaluates a clause.  A fault is caught and written to the log. -/
def answerLogged (ctx : Context) (log : Log) (memo : PatternMemo ctx.sizeLimit) (c : Clause)
    (state1 state2 : Option State) (captures : List Capture) :
    PatternMemo ctx.sizeLimit × Outcome Answer :=
  match ctx.dispatch memo c state1 state2 captures with
  | (memo, .value a) => (memo, .value a)
  | (memo, .fault) => (memo, (log.report state1 state2).andThen fun _ => .value .noMatch)

/-- Evaluates a clause as far as faults can be written to the log. -/
def answerClause (ctx : Context) (memo : PatternMemo ctx.sizeLimit) (c : Clause)
    (state1 state2 : Option State) (captures : List Capture) :
    PatternMemo ctx.sizeLimit × Answer :=
  let (memo, a) := ctx.dispatch memo c state1 state2 captures
  (memo, a.getD .noMatch)

/-- The pattern looked up is the one that the text stands for. -/
@[simp] theorem lookUpPattern_snd {limit : Option Nat} (memo : PatternMemo limit)
    (text : Option String) :
    (lookUpPattern memo text).2 = text.bind (Pattern.ofText? limit) := by
  cases text <;> simp [lookUpPattern]

theorem answerClause_eq (ctx : Context) (memo : PatternMemo ctx.sizeLimit) (c : Clause)
    (state1 state2 : Option State) (captures : List Capture) :
    ctx.answerClause memo c state1 state2 captures =
      match ctx.resolveBoth c state1 state2 with
      | .fault => (memo, .noMatch)
      | .value (r1, r2) =>
          let found := lookUpPattern memo (patternAsked c r1 r2)
          (found.1, (ctx.answer found.2 c r1 r2 captures).getD .noMatch) := by
  rw [answerClause, dispatch]
  cases ctx.resolveBoth c state1 state2 <;> rfl

/-- What there is before the catching of faults does not depend on what is in memory. -/
theorem dispatch_snd (ctx : Context) (memo memo' : PatternMemo ctx.sizeLimit) (c : Clause)
    (state1 state2 : Option State) (captures : List Capture) :
    (ctx.dispatch memo c state1 state2 captures).2 =
      (ctx.dispatch memo' c state1 state2 captures).2 := by
  unfold dispatch
  split <;> simp

/-- The answer of a clause does not depend on what is in memory. -/
theorem answerClause_snd (ctx : Context) (memo memo' : PatternMemo ctx.sizeLimit) (c : Clause)
    (state1 state2 : Option State) (captures : List Capture) :
    (ctx.answerClause memo c state1 state2 captures).2 =
      (ctx.answerClause memo' c state1 state2 captures).2 :=
  congrArg (·.getD .noMatch) (ctx.dispatch_snd memo memo' c state1 state2 captures)

end Context

end RuleMatching
