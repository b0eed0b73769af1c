import RuleMatching.Clause
import RuleMatching.Pattern
import RuleMatching.State.Difference

/-!
Captures: what a clause found where it applies.
-/

set_option autoImplicit false
set_option relaxedAutoImplicit false

namespace RuleMatching

/-- What was found. -/
inductive Finding where
  | scalar (text : String)
  | list (texts : List String)
  | pairs (pairs : List (String × String))
  | int (i : Int64)
  | bool (b : Bool)
  | instant (t : Instant)
  | flags (f : FlagSet)
  | occurrences (found : List Pattern.Match)
  | comparison (differences : List Difference)
  | state (s : State)

/-- The capture of a clause: the states that it looked at, and what it found in them. -/
structure Capture where
  clause : Clause
  state1 : Option State
  state2 : Option State
  result : Option Finding

/-- What evaluating a clause comes to. -/
structure Answer where
  applies : Bool
  capture : Option Capture

namespace Answer

def noMatch : Answer := ⟨false, none⟩

end Answer

end RuleMatching
