/-!
Settings of a matcher.
-/

set_option autoImplicit false
set_option relaxedAutoImplicit false

namespace RuleMatching

/-- Settings: whether expressions are cut short, how many workers share a batch, whether a trace is
kept, how large the machine for a pattern may be, and how log lines are written. -/
structure Settings where
  shortCircuit : Bool
  workers : Option Nat
  trace : Bool
  sizeLimit : Option Nat
  logLevel : String
  jsonLogs : Bool
  deriving DecidableEq, Repr

namespace Settings

def default : Settings := ⟨true, none, false, none, "info", false⟩

/-- The number of workers: what is set, unless it is zero, and else what the machine has, at least
one. -/
def workerCount (s : Settings) (available : Nat) : Nat :=
  match s.workers with
  | some (n + 1) => n + 1
  | _ => max available 1

end Settings

end RuleMatching
