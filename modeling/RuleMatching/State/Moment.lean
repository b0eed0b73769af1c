import RuleMatching.Instant.Reading
import RuleMatching.State

/-!
The instant that a state stands for.
-/

set_option autoImplicit false
set_option relaxedAutoImplicit false

namespace RuleMatching.State

/-- The instant in a state that is one, or that is the text of one. -/
def instant? : State → Option Instant
  | instant t => some t
  | text s => Instant.read? s
  | _ => none

end RuleMatching.State
