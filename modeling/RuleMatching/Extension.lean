import RuleMatching.Capture
import RuleMatching.Issue
import RuleMatching.State.Reduction
import RuleMatching.State.Path

/-!
Extensions: code of the calling program that takes part in the evaluation of clauses.  Extensions
are asked in the order in which they were registered, and each call of one may fault.
-/

set_option autoImplicit false
set_option relaxedAutoImplicit false

namespace RuleMatching

/-- What a custom operation may ask for: the texts of a state, and what stands at a path in it. -/
structure Services where
  reduce : State → Outcome Reduction
  follow : String → State → Outcome (Option State)

/-- A custom operation.  It claims clauses, answers them with the captures that came before in the
rule, and may find issues in their definition.  An answer that goes wrong is a message. -/
structure CustomOperation where
  name : String
  claims : Clause → Outcome Bool
  answer : Clause → Option State → Option State → List Capture → Services →
    Outcome (Except String Answer)
  issues : Rule → ClauseAt → Outcome (List Issue)

/-- Whether a clause asks for the custom operation with a name. -/
def Clause.asksFor (c : Clause) (name : String) : Bool := c.customOperation == some name

/-- The registered extensions, in the order of registration. -/
structure Registry where
  operations : List CustomOperation
  reducers : List Reducer
  propertyReaders : List PropertyReader

namespace Registry

def empty : Registry := ⟨[], [], []⟩

def addOperation (r : Registry) (o : CustomOperation) : Registry :=
  { r with operations := r.operations ++ [o] }

def addReducer (r : Registry) (e : Reducer) : Registry :=
  { r with reducers := r.reducers ++ [e] }

def addPropertyReader (r : Registry) (e : PropertyReader) : Registry :=
  { r with propertyReaders := r.propertyReaders ++ [e] }

def clearOperations (r : Registry) : Registry := { r with operations := [] }

def services (r : Registry) : Services :=
  ⟨State.reduce r.reducers, State.follow r.propertyReaders⟩

end Registry

/-- The first of the custom operations that claims a clause. -/
def claimant (c : Clause) : List CustomOperation → Outcome (Option CustomOperation)
  | [] => .value none
  | o :: os => (o.claims c).andThen fun
    | true => .value (some o)
    | false => claimant c os

/-- The custom operation that claims a clause is one of those asked. -/
theorem mem_of_claimant {c : Clause} {operations : List CustomOperation} {o : CustomOperation}
    (h : claimant c operations = .value (some o)) : o ∈ operations := by
  induction operations with
  | nil => simp [claimant] at h
  | cons o' os ih =>
    rw [claimant] at h
    obtain ⟨claimed, -, h⟩ := Outcome.andThen_eq_value_iff.mp h
    cases claimed with
    | true =>
      obtain rfl : o' = o := Option.some.inj (Outcome.value.inj h)
      exact List.mem_cons_self
    | false => exact List.mem_cons_of_mem o' (ih h)

end RuleMatching
