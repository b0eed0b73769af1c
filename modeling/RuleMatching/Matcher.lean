import RuleMatching.Evaluation.Rule
import RuleMatching.Expression.Reader
import RuleMatching.Rule.Target
import RuleMatching.Settings

/-!
Matchers.  A matcher has settings and extensions, and remembers the expressions and patterns that it
has read.  Every operation that may read one gives the matcher back with what it remembers then.

Faults of clauses are caught and written to a log, and a fault in writing that gets out: what goes by a
log comes to an outcome.  Its sibling without a log is the evaluation as far as faults can be written.
-/

set_option autoImplicit false
set_option relaxedAutoImplicit false

namespace RuleMatching

/-- The expressions that have been read, and the texts that are none. -/
abbrev ExpressionMemo := Memo Expression.read

/-- A matcher. -/
structure Matcher where
  settings : Settings
  registry : Registry
  now : Instant
  expressions : ExpressionMemo
  patterns : PatternMemo settings.sizeLimit

namespace Matcher

/-- The matcher with settings that has no extensions and remembers nothing. -/
def withSettings (settings : Settings) (now : Instant) : Matcher :=
  ⟨settings, .empty, now, .empty, .empty⟩

/-- Changes the registered extensions. -/
def register (m : Matcher) (change : Registry → Registry) : Matcher :=
  { m with registry := change m.registry }

/-- What clauses are answered with. -/
def context (m : Matcher) : Context := ⟨m.registry, m.now, m.settings.sizeLimit⟩

/-- How rules are evaluated if nothing else is asked for. -/
def mode (m : Matcher) : Mode := ⟨m.settings.shortCircuit, m.settings.trace⟩

/-- What stands at a path in a state. -/
def follow (m : Matcher) (path : String) (s : State) : Outcome (Option State) :=
  s.follow m.registry.propertyReaders path

/-- Brings a state down to texts or to pairs of texts. -/
def reduce (m : Matcher) (s : State) : Outcome Reduction := s.reduce m.registry.reducers

/-- Looks up the pattern that a text stands for. -/
def lookUpPattern (m : Matcher) (text : String) : Matcher × Option Pattern :=
  let (patterns, found) := m.patterns.lookUp text
  ({ m with patterns := patterns }, found)

/-- Looks up the expression that a text stands for. -/
def lookUpExpression (m : Matcher) (text : String) : Matcher × Except RuleError Expression :=
  let (expressions, found) := m.expressions.lookUp text
  ({ m with expressions := expressions }, found.mapError (.invalidExpression text))

/-- Answers a clause as far as faults can be written to the log, with the captures that came before in its
rule. -/
def answerClause (m : Matcher) (c : Clause) (state1 state2 : Option State)
    (captures : List Capture) : Matcher × Answer :=
  let (patterns, answer) := m.context.answerClause m.patterns c state1 state2 captures
  ({ m with patterns := patterns }, answer)

/-- Answers a clause, unless it faults and writing that to the log faults, too. -/
def answerClauseLogged (m : Matcher) (log : Log) (c : Clause) (state1 state2 : Option State)
    (captures : List Capture) : Matcher × Outcome Answer :=
  let (patterns, answer) := m.context.answerLogged log m.patterns c state1 state2 captures
  ({ m with patterns := patterns }, answer)

/-- Answers a clause by itself. -/
def answerAlone (m : Matcher) (c : Clause) (state1 state2 : Option State) : Matcher × Answer :=
  m.answerClause c state1 state2 []

/-- Evaluates a rule with the tree of its expression, whatever its target is. -/
def runTreeLogged (m : Matcher) (log : Log) (mode : Mode) (r : Rule) (tree : Option Expression)
    (state1 state2 : Option State) : Matcher × Outcome (Except RuleError Evaluation) :=
  let (patterns, result) := m.context.testRuleLogged log mode m.patterns r tree state1 state2
  ({ m with patterns := patterns }, result)

/-- Evaluates a rule, whatever its target is. -/
def runLogged (m : Matcher) (log : Log) (mode : Mode) (r : Rule) (state1 state2 : Option State) :
    Matcher × Outcome (Except RuleError Evaluation) :=
  match r.expression with
  | none => m.runTreeLogged log mode r none state1 state2
  | some text =>
      match m.lookUpExpression text with
      | (m, .error e) => (m, .value (.error e))
      | (m, .ok tree) => m.runTreeLogged log mode r (some tree) state1 state2

/-- Evaluates a rule.  A rule that is for other states, one that cannot be evaluated, and one whose
target cannot be compared do not match. -/
def evaluateLogged (m : Matcher) (log : Log) (r : Rule) (state1 state2 : Option State) :
    Matcher × Outcome Evaluation :=
  match r.isFor state1 state2 with
  | .value true =>
      match m.runLogged log m.mode r state1 state2 with
      | (m, .value (.ok e)) => (m, .value e)
      | (m, .value (.error _)) => (m, .value .noMatch)
      | (m, .fault) => (m, .fault)
  | _ => (m, .value .noMatch)

/-- Whether a rule matches. -/
def isMatchLogged (m : Matcher) (log : Log) (r : Rule) (state1 state2 : Option State) :
    Matcher × Outcome Bool :=
  let (m, e) := m.evaluateLogged log r state1 state2
  (m, e.andThen fun e => .value e.matched)

/-- The captures of a rule, if it matches. -/
def capturesLogged? (m : Matcher) (log : Log) (r : Rule) (state1 state2 : Option State) :
    Matcher × Outcome (Option (List PlacedCapture)) :=
  let (m, e) := m.evaluateLogged log r state1 state2
  (m, e.andThen fun e => .value e.captures?)

/-! ### Evaluation as far as faults can be written to the log -/

def runTree (m : Matcher) (mode : Mode) (r : Rule) (tree : Option Expression)
    (state1 state2 : Option State) : Matcher × Except RuleError Evaluation :=
  let (patterns, result) := m.context.testRule mode m.patterns r tree state1 state2
  ({ m with patterns := patterns }, result)

def run (m : Matcher) (mode : Mode) (r : Rule) (state1 state2 : Option State) :
    Matcher × Except RuleError Evaluation :=
  match r.expression with
  | none => m.runTree mode r none state1 state2
  | some text =>
      match m.lookUpExpression text with
      | (m, .error e) => (m, .error e)
      | (m, .ok tree) => m.runTree mode r (some tree) state1 state2

def evaluate (m : Matcher) (r : Rule) (state1 state2 : Option State) : Matcher × Evaluation :=
  match r.isFor state1 state2 with
  | .value true =>
      match m.run m.mode r state1 state2 with
      | (m, .ok e) => (m, e)
      | (m, .error _) => (m, .noMatch)
  | _ => (m, .noMatch)

def isMatch (m : Matcher) (r : Rule) (state1 state2 : Option State) : Matcher × Bool :=
  let (m, e) := m.evaluate r state1 state2
  (m, e.matched)

def captures? (m : Matcher) (r : Rule) (state1 state2 : Option State) :
    Matcher × Option (List PlacedCapture) :=
  let (m, e) := m.evaluate r state1 state2
  (m, e.captures?)

end Matcher

end RuleMatching
