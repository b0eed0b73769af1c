import RuleMatching.Binary64.Shortest
import RuleMatching.FlagSet
import RuleMatching.Instant
import RuleMatching.NameSet
import RuleMatching.Outcome
import RuleMatching.Text.Lookup

/-!
States, the trees of values that rules look at.  A container is given by what it holds at each
place, so that every recursion on a state is structural: a list by its length and its items, a map
by its keys and the entries at them.  Objects that belong to the calling program are reached
through their methods, each of which may fault.
-/

set_option autoImplicit false
set_option relaxedAutoImplicit false

namespace RuleMatching

/-- What reading a field of a foreign object by name comes to. -/
inductive FieldReading where
  | present
  | absent
  | fault
  deriving DecidableEq, Repr

/-- A state.  What `item` gives from `size` on, `entry` outside `keys` and `field` outside the
fields is never looked at. -/
inductive State where
  | null
  | bool (b : Bool)
  | int (i : Int64)
  | float (x : Binary64)
  | text (s : String)
  | instant (t : Instant)
  | flags (f : FlagSet)
  | list (size : Nat) (item : Nat → State)
  | map (keys : NameSet) (entry : String → State)
  | pairs (entries : List (String × String))
  | record (kind : String) (names : NameSet) (field : String → State)
  | foreign (kind : Outcome String) (names : Outcome (List String)) (text : Outcome String)
      (reading : String → FieldReading) (field : String → State)

namespace State

instance : Inhabited State := ⟨null⟩

def ofItems (items : List State) : State := list items.length fun i => items.getD i null

/-- The map with the given entries; the last entry for a key counts. -/
def ofEntries (entries : List (String × State)) : State :=
  map (.ofList (entries.map (·.1))) fun key => (Text.lookup key entries.reverse).getD null

def ofFields (kind : String) (fields : List (String × State)) : State :=
  record kind (.ofList (fields.map (·.1))) fun name =>
    (Text.lookup name fields.reverse).getD null

/-- The items of a list with the given length. -/
def items (size : Nat) (item : Nat → State) : List State := (List.range size).map item

def isNull : State → Bool
  | null => true
  | _ => false

/-- The name of the type of a state.  Objects and flag sets carry their own. -/
def kind : State → Outcome String
  | null => .value "Null"
  | bool _ => .value "Bool"
  | int _ => .value "Int"
  | float _ => .value "Float"
  | text _ => .value "String"
  | instant _ => .value "DateTime"
  | flags f => .value f.kind
  | list _ _ => .value "List"
  | map _ _ => .value "Map"
  | pairs _ => .value "Pairs"
  | record k _ _ => .value k
  | foreign k _ _ _ _ => k

/-- The text in a state that is a text. -/
def text? : State → Option String
  | text s => some s
  | _ => none

/-- The truth value in a state that is one. -/
def bool? : State → Option Bool
  | bool b => some b
  | _ => none

/-- How a scalar is written; containers, objects and null are no scalars. -/
def scalarText? : State → Option String
  | bool b => some (if b then "true" else "false")
  | int i => some (Numeral.integerText i.toInt)
  | float x => some x.text
  | text s => some s
  | instant t => some t.text
  | flags f => some f.display
  | _ => none

def isScalar (s : State) : Bool := s.scalarText?.isSome

def entryText (key value : String) : String := key ++ ": " ++ value

def braced (entries : List String) : String := "\x7b" ++ Text.joinWith ", " entries ++ "\x7d"

def render : State → Outcome String
  | null => .value ""
  | list size item =>
      (Outcome.forEach (fun i => (item i).render) (List.range size)).andThen fun ts =>
        .value ("[" ++ Text.joinWith ", " ts ++ "]")
  | map keys entry =>
      (Outcome.forEach (fun k => (entry k).render.andThen fun t => .value (entryText k t))
        keys.names).andThen fun ts => .value (braced ts)
  | pairs entries => .value (braced (entries.map fun e => entryText e.1 e.2))
  | record kind names field =>
      (Outcome.forEach (fun n => (field n).render.andThen fun t => .value (entryText n t))
        names.names).andThen fun ts => .value (kind ++ " " ++ braced ts)
  | foreign _ _ t _ _ => t
  | bool b => .value (if b then "true" else "false")
  | int i => .value (Numeral.integerText i.toInt)
  | float x => .value x.text
  | text s => .value s
  | instant t => .value t.text
  | flags f => .value f.display

/-- A scalar is rendered as it is written. -/
theorem render_of_scalarText? {s : State} {t : String} (h : s.scalarText? = some t) :
    s.render = .value t := by
  cases s <;> simp_all [scalarText?, render]

def recordField? (names : NameSet) (field : String → State) (name : String) :
    Option State :=
  if names.contains name then some (field name) else none

def foreignField? (reading : String → FieldReading) (field : String → State) (name : String) :
    Outcome (Option State) :=
  match reading name with
  | .present => .value (some (field name))
  | .absent => .value none
  | .fault => .fault

/-- An object seen through its methods. -/
structure ObjectView where
  kind : Outcome String
  names : Outcome (List String)
  text : Outcome String
  field? : String → Outcome (Option State)

/-- The view of a record or of a foreign object. -/
def object? : State → Option ObjectView
  | record k ns f =>
      some ⟨.value k, .value ns.names, (record k ns f).render,
        fun n => .value (recordField? ns f n)⟩
  | foreign k ns t r f => some ⟨k, ns, t, foreignField? r f⟩
  | _ => none

end State

end RuleMatching
