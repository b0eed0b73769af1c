import RuleMatching.Matcher

/-!
Evaluating many rules on the same states.  The rules are cut into shares of equal length, one for
each worker, and the results of the shares are put together in order.  A fault that gets out of a rule
ends its worker, and costs the share of the worker; without other workers it gets out of all.
-/

set_option autoImplicit false
set_option relaxedAutoImplicit false

namespace RuleMatching

/-- Cuts a list into shares of a length; the last share may be shorter. -/
def sharesOf {α : Type} (length : Nat) : Nat → List α → List (List α)
  | 0, _ => []
  | _ + 1, [] => []
  | fuel + 1, a :: as => (a :: as).take length :: sharesOf length fuel ((a :: as).drop length)

/-- Cuts a list into shares for a number of workers, of which at least one is at work. -/
def shares {α : Type} (workers : Nat) (as : List α) : List (List α) :=
  let busy := max (min workers as.length) 1
  sharesOf ((as.length + busy - 1) / busy) as.length as

namespace Matcher

abbrev PlacedRule := Nat × Rule

section

variable {α : Type}

/-- Evaluates the rules of a share one after the other, and keeps the results that there are. -/
def evaluateShare (evaluate : Matcher → Rule → Matcher × Outcome (Option α)) (m : Matcher) :
    List PlacedRule → Matcher × Outcome (List (Nat × α))
  | [] => (m, .value [])
  | r :: rs =>
      match evaluate m r.2 with
      | (m, .fault) => (m, .fault)
      | (m, .value x) =>
          let (m, xs) := evaluateShare evaluate m rs
          (m, xs.andThen fun xs => .value ((x.toList.map fun x => (r.1, x)) ++ xs))

/-- Evaluates shares, each by a worker of its own.  What a worker has found is lost if it ends by a
fault. -/
def evaluateShares (evaluate : Matcher → Rule → Matcher × Outcome (Option α)) (m : Matcher) :
    List (List PlacedRule) → Matcher × List (Nat × α)
  | [] => (m, [])
  | s :: ss =>
      let (m, xs) := evaluateShare evaluate m s
      let (m, ys) := evaluateShares evaluate m ss
      (m, xs.getD [] ++ ys)

/-- Evaluates rules, with the places of those for which there is a result. -/
def evaluateAll (evaluate : Matcher → Rule → Matcher × Outcome (Option α)) (available : Nat)
    (m : Matcher) (rules : List Rule) : Matcher × Outcome (List (Nat × α)) :=
  let placed := rules.zipIdx.map fun r => (r.2, r.1)
  let workers := m.settings.workerCount available
  if min workers rules.length ≤ 1 then evaluateShare evaluate m placed
  else
    let (m, found) := evaluateShares evaluate m (shares workers placed)
    (m, .value found)

/-- A way to evaluate rules that lets no fault out. -/
def always (evaluate : Matcher → Rule → Matcher × Option α) (m : Matcher) (r : Rule) :
    Matcher × Outcome (Option α) :=
  let (m, x) := evaluate m r
  (m, .value x)

def evaluateEach (evaluate : Matcher → Rule → Matcher × Option α) (available : Nat) (m : Matcher)
    (rules : List Rule) : Matcher × List (Nat × α) :=
  let (m, found) := evaluateAll (always evaluate) available m rules
  (m, found.getD [])

/-- Something about a rule, if it matches. -/
def ifMatchLogged (log : Log) (state1 state2 : Option State) (x : Rule → α) (m : Matcher)
    (r : Rule) : Matcher × Outcome (Option α) :=
  let (m, isMatch) := m.isMatchLogged log r state1 state2
  (m, isMatch.andThen fun isMatch => .value (if isMatch then some (x r) else none))

def ifMatch (state1 state2 : Option State) (x : Rule → α) (m : Matcher) (r : Rule) :
    Matcher × Option α :=
  let (m, isMatch) := m.isMatch r state1 state2
  (m, if isMatch then some (x r) else none)

end

/-! ### Evaluation up to a fault that gets out -/

def matchingLogged (m : Matcher) (log : Log) (available : Nat) (rules : List Rule)
    (state1 state2 : Option State) : Matcher × Outcome (List Nat) :=
  let (m, found) := evaluateAll (ifMatchLogged log state1 state2 id) available m rules
  (m, found.andThen fun found => .value (found.map (·.1)))

def tagsLogged (m : Matcher) (log : Log) (available : Nat) (rules : List Rule)
    (state1 state2 : Option State) : Matcher × Outcome NameSet :=
  let (m, found) := evaluateAll (ifMatchLogged log state1 state2 Rule.tags) available m rules
  (m, found.andThen fun found => .value (.ofList (found.flatMap fun p => p.2.names)))

/-- The captures of the rules that match, with their places. -/
def capturesLogged (m : Matcher) (log : Log) (available : Nat) (rules : List Rule)
    (state1 state2 : Option State) : Matcher × Outcome (List (Nat × List PlacedCapture)) :=
  evaluateAll (fun m r => m.capturesLogged? log r state1 state2) available m rules

/-! ### Evaluation as far as faults can be written to the log -/

def matching (m : Matcher) (available : Nat) (rules : List Rule) (state1 state2 : Option State) :
    Matcher × List Nat :=
  let (m, found) := evaluateEach (ifMatch state1 state2 id) available m rules
  (m, found.map (·.1))

def tags (m : Matcher) (available : Nat) (rules : List Rule) (state1 state2 : Option State) :
    Matcher × NameSet :=
  let (m, found) := evaluateEach (ifMatch state1 state2 Rule.tags) available m rules
  (m, .ofList (found.flatMap fun p => p.2.names))

def captures (m : Matcher) (available : Nat) (rules : List Rule)
    (state1 state2 : Option State) : Matcher × List (Nat × List PlacedCapture) :=
  evaluateEach (fun m r => m.captures? r state1 state2) available m rules

end Matcher

end RuleMatching
