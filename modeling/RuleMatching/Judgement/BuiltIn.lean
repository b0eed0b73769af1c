import RuleMatching.State.Moment
import RuleMatching.Judgement

/-!
The operations that are built in.  Each of them is a function from a clause and the states that are
there to a judgement, or to none if it cannot be decided.
-/

set_option autoImplicit false
set_option relaxedAutoImplicit false

namespace RuleMatching.Judgement

/-- Texts found in a state.  For a state that is a text there is just the one. -/
def textFinding (s : State) : List String → Option Finding
  | [] => none
  | t :: ts =>
      match s with
      | .text _ => some (.scalar t)
      | _ => some (.list (t :: ts))

/-- Looks for texts with a property among the texts of a state. -/
def lookForTexts (reducers : List Reducer) (test : String → Bool) (s : State) :
    Outcome (Option Finding) :=
  (textsOf reducers s).andThen fun ts => .value (textFinding s (ts.filter test))

/-- Whether some text of the states has a property; undecided without data or states. -/
def someText (reducers : List Reducer) (test : String → Bool) (c : Clause)
    (states : List State) : Outcome (Option Judgement) :=
  if c.data.isEmpty || states.isEmpty then .value none
  else search reducers (lookForTexts reducers test) states

/-- Whether so many of the wanted items are enough: all of them, or at least one. -/
def isEnough (all : Bool) (hits wanted : Nat) : Bool :=
  if all then hits == wanted && 0 < wanted else 0 < hits

/-- Looks for the wanted texts or pairs in a state.  In flag sets and texts it looks for parts. -/
def lookForParts (reducers : List Reducer) (all : Bool) (c : Clause) (s : State) :
    Outcome (Option Finding) :=
  match c.operand, s with
  | .list data, .flags f =>
      let hits := data.filter fun d => (f.read? d).any f.contains
      .value (if isEnough all hits.length data.length then some (.flags f) else none)
  | .list data, .text t =>
      let hits := data.filter fun d => Text.holds t d
      .value (if isEnough all hits.length data.length then some (.scalar t) else none)
  | .list data, s => (textsOf reducers s).andThen fun ts =>
      let hits := data.filter ts.contains
      .value (if isEnough all hits.length data.length then some (.list hits) else none)
  | .dict pairs, s => (pairsOf reducers s).andThen fun ps =>
      let hits := pairs.filter ps.contains
      .value (if isEnough all hits.length pairs.length then some (.pairs hits) else none)
  | .none, _ => .value none

/-- Whether some state has all wanted parts, or at least one of them. -/
def someParts (reducers : List Reducer) (all : Bool) (c : Clause)
    (states : List State) : Outcome (Option Judgement) :=
  if (c.data.isEmpty && c.dictData.isEmpty) || states.isEmpty then .value none
  else search reducers (lookForParts reducers all c) states

/-- The keys of a state: of a map its own, of an object its fields, and else those of its pairs. -/
def keysOf (reducers : List Reducer) (s : State) : Outcome (List String) :=
  match s with
  | .map keys _ => .value keys.names
  | s =>
      match s.object? with
      | some o => o.names.andThen fun
        | [] => (pairsOf reducers s).andThen fun ps => .value (ps.map (·.1))
        | n :: ns => .value (n :: ns)
      | none => (pairsOf reducers s).andThen fun ps => .value (ps.map (·.1))

/-- Whether some state has one of the wanted keys; undecided if no state has keys. -/
def someKey (reducers : List Reducer) (c : Clause) (states : List State) :
    Outcome (Option Judgement) :=
  if c.data.isEmpty then .value none
  else (Outcome.forEach (keysOf reducers) states).andThen fun keyed =>
    if keyed.flatten.isEmpty then .value none
    else
      match (keyed.map fun ks => ks.filter c.data.contains).find? fun hits => !hits.isEmpty with
      | some hits => .value (some ⟨true, some (.list hits)⟩)
      | none => .value (some ⟨false, some (.list keyed.flatten)⟩)

/-- The judgement on a list of values: it holds if one of them passes, which then shows it, and else
the first value shows that it does not; undecided without values. -/
def firstPassing {α : Type} (test : α → Bool) (find : α → Finding) : List α → Option Judgement
  | [] => none
  | a :: as =>
      match (a :: as).find? test with
      | some b => some ⟨true, some (find b)⟩
      | none => some ⟨false, some (find a)⟩

/-- The integer that a text stands for between blanks. -/
def integer? (s : String) : Option Int64 := Numeral.integer? (Text.trim s.toList)

/-- Whether some integer among the texts of the states compares with the first of the data. -/
def someInteger (reducers : List Reducer) (compare : Int64 → Int64 → Bool) (c : Clause)
    (states : List State) : Outcome (Option Judgement) :=
  match c.data.head?.bind integer? with
  | none => .value none
  | some threshold => (allTexts reducers states).andThen fun ts =>
      .value (firstPassing (fun i => compare i threshold) .int (ts.filterMap integer?))

/-- The text that stands for the pattern of a clause: any of the data. -/
def patternText (c : Clause) : String := Text.joinWith "|" c.data

/-- Looks for occurrences of a pattern in the texts of a state. -/
def lookForPattern (reducers : List Reducer) (p : Pattern) (s : State) :
    Outcome (Option Finding) :=
  (textsOf reducers s).andThen fun ts =>
    match ts.flatMap p.matchesIn with
    | [] => .value none
    | m :: ms => .value (some (.occurrences (m :: ms)))

/-- Whether a pattern occurs in some text of the states; undecided without one. -/
def somePattern (reducers : List Reducer) (pattern : Option Pattern) (c : Clause)
    (states : List State) : Outcome (Option Judgement) :=
  if c.data.isEmpty || states.isEmpty then .value none
  else
    match pattern with
    | none => .value none
    | some p => search reducers (lookForPattern reducers p) states

/-- Whether some state is true; undecided if none is a truth value. -/
def someTrue (states : List State) : Option Judgement :=
  match states.filterMap State.bool? with
  | [] => none
  | bs => some ⟨bs.contains true, some (.bool (bs.contains true))⟩

/-- Whether the states differ.  All differences are asked for only if they are captured. -/
def modified (c : Clause) (state1 state2 : Option State) : Outcome (Option Judgement) :=
  let limit := if c.capture then State.unlimited else 1
  (State.differencesBetween state1 state2 limit).andThen fun ds =>
    .value (some ⟨!ds.isEmpty, some (.comparison ds)⟩)

/-- Whether some instant compares with one of the data; undecided without either. -/
def someInstant (compare : Instant → Instant → Bool) (c : Clause) (states : List State) :
    Option Judgement :=
  match c.data.filterMap Instant.read? with
  | [] => none
  | thresholds =>
      firstPassing (fun t => thresholds.any (compare t)) .instant (states.filterMap State.instant?)

def someExpired (now : Instant) (states : List State) : Option Judgement :=
  firstPassing (fun t => t.isBefore now) .instant (states.filterMap State.instant?)

/-- The judgement of a clause on the states.  The pattern of the clause is given compiled. -/
def ofClause (reducers : List Reducer) (now : Instant) (pattern : Option Pattern)
    (c : Clause) (state1 state2 : Option State) : Outcome (Option Judgement) :=
  let states := present state1 state2
  match c.operation with
  | .equals => someText reducers c.data.contains c states
  | .lessThan => someInteger reducers (fun i j => i < j) c states
  | .greaterThan => someInteger reducers (fun i j => j < i) c states
  | .contains => someParts reducers true c states
  | .containsAny => someParts reducers false c states
  | .containsKey => someKey reducers c states
  | .startsWith => someText reducers (fun t => c.data.any (Text.startsWith t)) c states
  | .endsWith => someText reducers (fun t => c.data.any (Text.endsWith t)) c states
  | .regex => somePattern reducers pattern c states
  | .isNull => .value (some ⟨states.isEmpty, none⟩)
  | .isTrue => .value (someTrue states)
  | .wasModified => modified c state1 state2
  | .isBefore => .value (someInstant Instant.isBefore c states)
  | .isAfter => .value (someInstant (fun t u => u.isBefore t) c states)
  | .isExpired => .value (someExpired now states)
  | .custom => .value none

end RuleMatching.Judgement
