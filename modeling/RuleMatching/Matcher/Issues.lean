import RuleMatching.Lint
import RuleMatching.Matcher

/-!
Checking the definitions of rules with the extensions and the limit of a matcher.
-/

set_option autoImplicit false
set_option relaxedAutoImplicit false

namespace RuleMatching.Matcher

def issuesOf (m : Matcher) (r : Rule) : Outcome (List Issue) :=
  Lint.issues m.registry.operations m.settings.sizeLimit r

/-- The issues of rules, with the places of the rules. -/
def issuesOfAll (m : Matcher) (rules : List Rule) : Outcome (List (Nat × Issue)) :=
  (Outcome.forEach m.issuesOf rules).andThen fun found =>
    .value (found.zipIdx.flatMap fun p => p.1.map fun i => (p.2, i))

def isValid (m : Matcher) (r : Rule) : Outcome Bool :=
  (m.issuesOf r).andThen fun found => .value found.isEmpty

end RuleMatching.Matcher
