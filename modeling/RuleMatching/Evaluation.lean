import RuleMatching.Capture
import RuleMatching.Rule.Label

/-!
What evaluating a rule comes to: whether it matches, the captures of its clauses in the order of
evaluation, what was done, and a trace.
-/

set_option autoImplicit false
set_option relaxedAutoImplicit false

namespace RuleMatching

/-- The capture of the clause at a place in a rule. -/
structure PlacedCapture where
  index : Nat
  capture : Capture

/-- How far an evaluation has come. -/
structure Progress where
  captures : List PlacedCapture
  clausesTested : Nat
  shortCircuits : Nat
  trace : List String

namespace Progress

def start : Progress := ⟨[], 0, 0, []⟩

/-- Writes a line of the trace, if one is kept. -/
def note (p : Progress) (traced : Bool) (line : String) : Progress :=
  if traced then { p with trace := p.trace ++ [line] } else p

/-- Drops all captures but the given number of first ones. -/
def keepCaptures (p : Progress) (count : Nat) : Progress :=
  { p with captures := p.captures.take count }

def clauseLine (name : String) (operation : Operation) (applies : Bool) : String :=
  name ++ ": " ++ operation.name ++ " => " ++ if applies then "MATCHED" else "NOT_MATCHED"

/-- The line of the trace about a clause without which a rule cannot match. -/
def failureLine (index : Nat) : String := "子句 " ++ Numeral.text index ++ " 不成立，规则不匹配"

def truthText (b : Bool) : String := if b then "true" else "false"

/-- The line of the trace about an operand that is passed over. -/
def shortCircuitLine (operator : BoolOperator) (left value : Bool) : String :=
  operator.name ++ " 短路 - 左侧为 " ++ truthText left ++ "，结果为 " ++ truthText value

/-- Counts a clause as evaluated, and keeps its capture if it applies. -/
def addAnswer (p : Progress) (traced : Bool) (name : String) (c : ClauseAt) (a : Answer) :
    Progress :=
  let p := { p with clausesTested := p.clausesTested + 1 }
  let p := p.note traced (clauseLine name c.clause.operation a.applies)
  if a.applies then
    { p with captures := p.captures ++ (a.capture.toList.map fun x => ⟨c.index, x⟩) }
  else p

def addShortCircuit (p : Progress) (traced : Bool) (operator : BoolOperator)
    (left value : Bool) : Progress :=
  { p with shortCircuits := p.shortCircuits + 1 }.note traced (shortCircuitLine operator left value)

section

variable (p : Progress) (traced : Bool)

@[simp] theorem note_captures (line : String) : (p.note traced line).captures = p.captures := by
  cases traced <;> rfl

@[simp] theorem note_clausesTested (line : String) :
    (p.note traced line).clausesTested = p.clausesTested := by
  cases traced <;> rfl

@[simp] theorem note_shortCircuits (line : String) :
    (p.note traced line).shortCircuits = p.shortCircuits := by
  cases traced <;> rfl

@[simp] theorem note_trace (line : String) :
    (p.note traced line).trace = p.trace ++ if traced then [line] else [] := by
  cases traced <;> simp [note]

@[simp] theorem keepCaptures_captures (count : Nat) :
    (p.keepCaptures count).captures = p.captures.take count := rfl

@[simp] theorem keepCaptures_clausesTested (count : Nat) :
    (p.keepCaptures count).clausesTested = p.clausesTested := rfl

@[simp] theorem keepCaptures_shortCircuits (count : Nat) :
    (p.keepCaptures count).shortCircuits = p.shortCircuits := rfl

@[simp] theorem keepCaptures_trace (count : Nat) : (p.keepCaptures count).trace = p.trace := rfl

@[simp] theorem addAnswer_captures (name : String) (c : ClauseAt) (a : Answer) :
    (p.addAnswer traced name c a).captures = p.captures ++
      if a.applies then a.capture.toList.map fun x => ⟨c.index, x⟩ else [] := by
  cases h : a.applies <;> simp [addAnswer, h]

@[simp] theorem addAnswer_clausesTested (name : String) (c : ClauseAt) (a : Answer) :
    (p.addAnswer traced name c a).clausesTested = p.clausesTested + 1 := by
  cases h : a.applies <;> simp [addAnswer, h]

@[simp] theorem addAnswer_shortCircuits (name : String) (c : ClauseAt) (a : Answer) :
    (p.addAnswer traced name c a).shortCircuits = p.shortCircuits := by
  cases h : a.applies <;> simp [addAnswer, h]

@[simp] theorem addAnswer_trace (name : String) (c : ClauseAt) (a : Answer) :
    (p.addAnswer traced name c a).trace = p.trace ++
      if traced then [clauseLine name c.clause.operation a.applies] else [] := by
  cases h : a.applies <;> simp [addAnswer, h]

variable (operator : BoolOperator) (left value : Bool)

@[simp] theorem addShortCircuit_captures :
    (p.addShortCircuit traced operator left value).captures = p.captures := by
  simp [addShortCircuit]

@[simp] theorem addShortCircuit_clausesTested :
    (p.addShortCircuit traced operator left value).clausesTested = p.clausesTested := by
  simp [addShortCircuit]

@[simp] theorem addShortCircuit_shortCircuits :
    (p.addShortCircuit traced operator left value).shortCircuits = p.shortCircuits + 1 := by
  simp [addShortCircuit]

@[simp] theorem addShortCircuit_trace :
    (p.addShortCircuit traced operator left value).trace = p.trace ++
      if traced then [shortCircuitLine operator left value] else [] := by
  simp [addShortCircuit]

end

end Progress

/-- How a rule is evaluated. -/
structure Mode where
  shortCircuit : Bool
  traced : Bool
  deriving DecidableEq, Repr

/-- The evaluation of a rule. -/
structure Evaluation where
  matched : Bool
  progress : Progress

namespace Evaluation

/-- The rule does not match, and nothing was done. -/
def noMatch : Evaluation := ⟨false, .start⟩

def captures? (e : Evaluation) : Option (List PlacedCapture) :=
  if e.matched then some e.progress.captures else none

end Evaluation

end RuleMatching
