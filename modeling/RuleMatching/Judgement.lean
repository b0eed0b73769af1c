import RuleMatching.Capture
import RuleMatching.State.Reduction

/-!
Judgements of clauses on states.  A clause whose operation cannot be decided on the states has none.
A judgement is turned into the answer of a clause by `Judgement.answer`, where inversion and
captures come in.
-/

set_option autoImplicit false
set_option relaxedAutoImplicit false

namespace RuleMatching

/-- The judgement of an operation: whether it holds, and what shows it. -/
structure Judgement where
  holds : Bool
  finding : Option Finding

namespace Judgement

/-- The answer of a clause with a judgement.  Without one the clause does not apply, inverted or
not. -/
def answer (c : Clause) (state1 state2 : Option State) : Option Judgement → Answer
  | none => .noMatch
  | some v =>
      let applies := v.holds != c.invert
      ⟨applies, if applies && c.capture then some ⟨c, state1, state2, v.finding⟩ else none⟩

def present (state1 state2 : Option State) : List State := state1.toList ++ state2.toList

/-- What is found in the first of the states in which something is found. -/
def firstFinding (look : State → Outcome (Option Finding)) :
    List State → Outcome (Option Finding)
  | [] => .value none
  | s :: ss => (look s).andThen fun
    | some x => .value (some x)
    | none => firstFinding look ss

def textsOf (reducers : List Reducer) (s : State) : Outcome (List String) :=
  (s.reduce reducers).andThen fun x => .value x.texts

def pairsOf (reducers : List Reducer) (s : State) : Outcome (List (String × String)) :=
  (s.reduce reducers).andThen fun x => .value x.pairs

def allTexts (reducers : List Reducer) (states : List State) : Outcome (List String) :=
  (Outcome.forEach (textsOf reducers) states).andThen fun ts => .value ts.flatten

/-- The judgement of an operation that looks for something in one state after the other: it holds if
something is found, and else all texts of the states are what shows that it does not. -/
def search (reducers : List Reducer) (look : State → Outcome (Option Finding))
    (states : List State) : Outcome (Option Judgement) :=
  (firstFinding look states).andThen fun
    | some x => .value (some ⟨true, some x⟩)
    | none => (allTexts reducers states).andThen fun ts =>
        .value (some ⟨false, some (.list ts)⟩)

end Judgement

end RuleMatching
