import RuleMatching.Rule
import RuleMatching.State
import RuleMatching.Text.Pieces

/-!
The target of a rule: the name of the type of states that the rule is for.
-/

set_option autoImplicit false
set_option relaxedAutoImplicit false

namespace RuleMatching.Rule

/-- The first state that is there and not null. -/
def firstState? (state1 state2 : Option State) : Option State :=
  (state1.toList ++ state2.toList).find? fun s => !s.isNull

/-- Whether a rule is for the states: it names no type, or the type of the first state that is not
null, up to the case of letters.  If all states are null or missing, every rule is for them. -/
def isFor (r : Rule) (state1 state2 : Option State) : Outcome Bool :=
  match r.target, firstState? state1 state2 with
  | some target, some s => s.kind.andThen fun kind => .value (Text.equalsIgnoringCase kind target)
  | _, _ => .value true

end RuleMatching.Rule
