/-!
Lists of pairs that are looked up by name.
-/

set_option autoImplicit false
set_option relaxedAutoImplicit false

namespace RuleMatching.Text

/-- What is found under a name in a list of pairs: the first entry for it. -/
def lookup {α : Type} (name : String) (entries : List (String × α)) : Option α :=
  (entries.find? fun e => e.1 == name).map (·.2)

end RuleMatching.Text
