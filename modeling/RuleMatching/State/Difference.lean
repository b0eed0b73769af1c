import RuleMatching.State

/-!
Differences between two states.  Walking both states together gives a sequence of events, each of
them a difference or a fault of a foreign object.  A comparison reads events until it has as many
differences as it was asked for, so it never meets a fault that lies behind the last of them.
-/

set_option autoImplicit false
set_option relaxedAutoImplicit false

namespace RuleMatching

/-- A place at which two states differ, and what each of them has there. -/
structure Difference where
  path : String
  before : Option String
  after : Option String
  deriving DecidableEq, Repr

namespace State

/-- The path of a place one segment further down. -/
def childPath (path segment : String) : String :=
  if path = "" then segment else path ++ "." ++ segment

/-- How one side of a difference is shown; null and nothing look alike. -/
def side : Option State → Outcome (Option String)
  | none => .value none
  | some s => if s.isNull then .value none else s.render.andThen fun t => .value (some t)

/-- The event of two sides that differ at a path. -/
def differing (path : String) (before after : Option State) : Outcome Difference :=
  (side before).andThen fun b => (side after).andThen fun a => .value ⟨path, b, a⟩

/-- The events of lists of pairs: entries that stand at the same place in both and differ. -/
def pairEvents (path : String) :
    List (String × String) → List (String × String) → List (Outcome Difference)
  | [], [] => []
  | x :: xs, [] =>
      .value ⟨childPath path x.1, some (entryText x.1 x.2), none⟩ :: pairEvents path xs []
  | [], y :: ys =>
      .value ⟨childPath path y.1, none, some (entryText y.1 y.2)⟩ :: pairEvents path [] ys
  | x :: xs, y :: ys =>
      if x = y then pairEvents path xs ys
      else .value ⟨childPath path x.1, some (entryText x.1 x.2), some (entryText y.1 y.2)⟩ ::
        pairEvents path xs ys

/-- The events of the fields of two objects with the given names; `visit` gives the events below a
field that both could be asked for. -/
def fieldEvents (a b : String → Outcome (Option State))
    (visit : String → Option State → State → List (Outcome Difference)) (names : List String) :
    List (Outcome Difference) :=
  names.flatMap fun n =>
    match a n, b n with
    | .value x, .value y => visit n x (y.getD null)
    | _, _ => [.fault]

/-- The events of two objects, of which the first is seen as `a`. -/
def objectEvents (path : String) (before after : State) (a b : ObjectView)
    (visit : String → Option State → State → List (Outcome Difference)) :
    List (Outcome Difference) :=
  match a.kind, b.kind with
  | .value k, .value l =>
      if k = l then
        match a.names, b.names with
        | .value ns, .value ms =>
            match (NameSet.ofList (ns ++ ms)).names with
            | [] =>
                match a.text, b.text with
                | .value s, .value t =>
                    if s = t then [] else [differing path (some before) (some after)]
                | _, _ => [.fault]
            | names => fieldEvents a.field? b.field? visit names
        | _, _ => [.fault]
      else [differing path (some before) (some after)]
  | _, _ => [.fault]

def sameScalar : State → State → Bool
  | null, null => true
  | bool a, bool b => a == b
  | int a, int b => a == b
  | float a, float b => a.equals b
  | text a, text b => a == b
  | instant a, instant b => a == b
  | flags a, flags b => a.same b
  | _, _ => false

def nullEvents (path : String) (after : State) : List (Outcome Difference) :=
  if after.isNull then [] else [differing path (some null) (some after)]

/-- The events met when two states are walked together, with their paths below `path`. -/
def events (path : String) (before after : State) : List (Outcome Difference) :=
  match before, after with
  | list m a, list n b =>
      (List.range (max m n)).flatMap fun i =>
        let below := childPath path (Numeral.text i)
        if i < m then
          if i < n then (a i).events below (b i)
          else [differing below (some (a i)) none]
        else [differing below none (some (b i))]
  | map ks a, map ls b =>
      (ks.union ls).names.flatMap fun k =>
        let below := childPath path k
        if ks.contains k then
          if ls.contains k then (a k).events below (b k)
          else [differing below (some (a k)) none]
        else [differing below none (some (b k))]
  | pairs xs, pairs ys => pairEvents path xs ys
  | record k ns f, after =>
      match after.object? with
      | some b =>
          objectEvents path (record k ns f) after
            ⟨.value k, .value ns.names, (record k ns f).render,
              fun n => .value (recordField? ns f n)⟩ b
            fun n x y =>
              if x.isSome then (f n).events (childPath path n) y
              else nullEvents (childPath path n) y
      | none => [differing path (some (record k ns f)) (some after)]
  | foreign k ns t r f, after =>
      match after.object? with
      | some b =>
          objectEvents path (foreign k ns t r f) after ⟨k, ns, t, foreignField? r f⟩ b
            fun n x y =>
              if x.isSome then (f n).events (childPath path n) y
              else nullEvents (childPath path n) y
      | none => [differing path (some (foreign k ns t r f)) (some after)]
  | before, after =>
      if sameScalar before after then [] else [differing path (some before) (some after)]

/-- The first differences among events, at most `limit` of them. -/
def firstDifferences : Nat → List (Outcome Difference) → Outcome (List Difference)
  | 0, _ => .value []
  | _ + 1, [] => .value []
  | limit + 1, e :: es => e.andThen fun d =>
      (firstDifferences limit es).andThen fun ds => .value (d :: ds)

/-- The differences between two states, at most `limit` of them. -/
def compare (before after : State) (limit : Nat) : Outcome (List Difference) :=
  firstDifferences limit (events "" before after)

/-- The greatest number of differences that a comparison can be asked for. -/
def unlimited : Nat := Numeral.wordBound - 1

/-- The differences between two states that may be missing. -/
def differencesBetween (before after : Option State) (limit : Nat) : Outcome (List Difference) :=
  compare (before.getD null) (after.getD null) limit

/-- Whether two states are equal: no difference is found between them. -/
def equals (s t : State) : Outcome Bool :=
  (compare s t 1).andThen fun ds => .value ds.isEmpty

end State

end RuleMatching
