import RuleMatching.State

/-!
Field paths.  A path names a place inside a state by segments between dots.  What a container holds
under a segment is found by its own rule; for everything else the registered property readers
are asked in turn.
-/

set_option autoImplicit false
set_option relaxedAutoImplicit false

namespace RuleMatching

/-- Code of the calling program that may know a property of a state by name. -/
abbrev PropertyReader := State → String → Outcome (Option State)

namespace State

/-- The first answer of the readers for a state and a name. -/
def readProperty (s : State) (name : String) : List PropertyReader → Outcome (Option State)
  | [] => .value none
  | e :: es => (e s name).andThen fun
    | some v => .value (some v)
    | none => readProperty s name es

def step (readers : List PropertyReader) (segment : String) (s : State) :
    Outcome (Option State) :=
  match s with
  | list size item =>
      .value (((Numeral.index? segment).filter (· < size)).map item)
  | map keys entry => .value (if keys.contains segment then some (entry segment) else none)
  | pairs entries => .value ((Text.lookup segment entries).map text)
  | record kind names field =>
      match recordField? names field segment with
      | some v => .value (some v)
      | none => (record kind names field).readProperty segment readers
  | foreign kind names t reading field =>
      (foreignField? reading field segment).andThen fun
        | some v => .value (some v)
        | none => (foreign kind names t reading field).readProperty segment readers
  | s => s.readProperty segment readers

/-- Walks down a state along segments, as far as there is something. -/
def walk (readers : List PropertyReader) : List String → State → Outcome (Option State)
  | [], s => .value (some s)
  | p :: ps, s => (s.step readers p).andThen fun
    | some v => walk readers ps v
    | none => .value none

/-- The segments of a path; the empty path has none. -/
def segments (path : String) : List String := if path = "" then [] else Text.pieces '.' path

/-- What stands at a path in a state.  A null there counts as nothing. -/
def follow (readers : List PropertyReader) (path : String) (s : State) :
    Outcome (Option State) :=
  (walk readers (segments path) s).andThen fun v => .value (v.filter fun t => !t.isNull)

end State

end RuleMatching
