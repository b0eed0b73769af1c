import RuleMatching.State

/-!
The log that faults of extensions are written to, with the states on which they occurred.  How an object
is written there is code of the calling program, which may fault as any other.
-/

set_option autoImplicit false
set_option relaxedAutoImplicit false

namespace RuleMatching

/-- What writing a state to the log comes to.  No object is asked if nobody reads the log. -/
abbrev Log := State → Outcome Unit

namespace Log

/-- The log that nobody reads. -/
def silent : Log := fun _ => .value ()

/-- Writes a state that may be missing. -/
def write (log : Log) : Option State → Outcome Unit
  | none => .value ()
  | some s => log s

/-- Writes that there was a fault on two states. -/
def report (log : Log) (state1 state2 : Option State) : Outcome Unit :=
  (log.write state1).andThen fun _ => log.write state2

@[simp] theorem silent_report (state1 state2 : Option State) :
    silent.report state1 state2 = .value () := by
  cases state1 <;> cases state2 <;> rfl

end Log

end RuleMatching
