import RuleMatching.State

/-!
What operations compare: any state can be brought down to a list of texts or a list of pairs of
texts.  Scalars, lists of scalars, maps to these and pairs have a form of their own; for all other
states the registered reducers are asked in turn, and the last resort is the text of the state.
-/

set_option autoImplicit false
set_option relaxedAutoImplicit false

namespace RuleMatching

/-- A state brought down to texts or to pairs of texts. -/
structure Reduction where
  texts : List String
  pairs : List (String × String)
  deriving DecidableEq, Repr

namespace Reduction

def empty : Reduction := ⟨[], []⟩

def ofTexts (texts : List String) : Reduction := ⟨texts, []⟩

def ofPairs (pairs : List (String × String)) : Reduction := ⟨[], pairs⟩

def ofText (t : String) : Reduction := ofTexts [t]

/-- Whether there is neither a text nor a pair. -/
def isEmpty (e : Reduction) : Bool := e.texts.isEmpty && e.pairs.isEmpty

end Reduction

/-- Code of the calling program that may know how to bring down a state. -/
abbrev Reducer := State → Outcome (Option Reduction)

namespace State

/-- The texts of the items of a list, if all of them are scalars. -/
def scalarTexts? (size : Nat) (item : Nat → State) : Option (List String) :=
  (List.range size).mapM fun i => (item i).scalarText?

/-- The texts that a map entry contributes: its own if it is a scalar, and those of its items if it
is a list of scalars. -/
def entryTexts? : State → Option (List String)
  | list size item => scalarTexts? size item
  | s => s.scalarText?.map fun t => [t]

/-- The pairs of a map, with a key repeated for each text of its entry. -/
def entryPairs? (entry : String → State) : List String → Option (List (String × String))
  | [] => some []
  | k :: ks => do
      let ts ← (entry k).entryTexts?
      let rest ← entryPairs? entry ks
      some (ts.map (fun t => (k, t)) ++ rest)

def ownForm? : State → Option Reduction
  | null => some .empty
  | list size item => (scalarTexts? size item).map .ofTexts
  | map keys entry => (entryPairs? entry keys.names).map .ofPairs
  | pairs entries => some (.ofPairs entries)
  | s => s.scalarText?.map .ofText

/-- The first answer of the reducers for a state, and its text if there is none. -/
def reduceBy (s : State) : List Reducer → Outcome Reduction
  | [] => s.render.andThen fun t => .value (.ofText t)
  | e :: es => (e s).andThen fun
    | some x => .value x
    | none => reduceBy s es

/-- Brings a state down to texts or to pairs of texts. -/
def reduce (reducers : List Reducer) (s : State) : Outcome Reduction :=
  match s.ownForm? with
  | some x => .value x
  | none => s.reduceBy reducers

end State

end RuleMatching
