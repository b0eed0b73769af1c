import RuleMatching.Binary64
import RuleMatching.State

/-!
JSON documents.  Members of an object are kept in ascending order of their names, each name once.
A document that is used as a state becomes one by `State.ofJson`.
-/

set_option autoImplicit false
set_option relaxedAutoImplicit false

namespace RuleMatching

/-- A JSON document.  A number without a fraction or an exponent that fits 64 bits is an integer;
all others are floating point numbers. -/
inductive Json where
  | null
  | bool (b : Bool)
  | int (i : Int)
  | float (x : Binary64)
  | string (s : String)
  | array (items : List Json)
  | object (members : List (String × Json))
  deriving Repr

namespace Json

instance : Inhabited Json := ⟨null⟩

/-- Adds a member to an object in order; it takes the place of one with the same name. -/
def insertMember (name : String) (value : Json) : List (String × Json) → List (String × Json)
  | [] => [(name, value)]
  | m :: ms =>
      if name = m.1 then (name, value) :: ms
      else if name < m.1 then (name, value) :: m :: ms
      else m :: insertMember name value ms

/-- The object with the given members; the last one with a name counts. -/
def ofMembers (members : List (String × Json)) : Json :=
  object (members.foldl (fun ms m => insertMember m.1 m.2 ms) [])

def member? (name : String) : Json → Option Json
  | object members => (members.find? fun m => m.1 == name).map (·.2)
  | _ => none

/-- The text in a document that is a string. -/
def string? : Json → Option String
  | string s => some s
  | _ => none

/-- The truth value in a document that is one. -/
def bool? : Json → Option Bool
  | bool b => some b
  | _ => none

/-- The items of a document that is an array. -/
def array? : Json → Option (List Json)
  | array items => some items
  | _ => none

/-- The members of a document that is an object. -/
def object? : Json → Option (List (String × Json))
  | object members => some members
  | _ => none

end Json

namespace State

mutual

/-- The state that a document describes.  Numbers that are no 64-bit integers become floating point
numbers. -/
def ofJson : Json → State
  | .null => null
  | .bool b => bool b
  | .int i =>
      if Numeral.fitsInteger i then int (Int64.ofInt i)
      else float (Binary64.ofRatio (i < 0) i.natAbs 1)
  | .float x => float x
  | .string s => text s
  | .array items => ofItems (ofJsonItems items)
  | .object members => ofEntries (ofJsonMembers members)

/-- The states that the items of an array describe. -/
def ofJsonItems : List Json → List State
  | [] => []
  | j :: js => ofJson j :: ofJsonItems js

/-- The entries that the members of an object describe. -/
def ofJsonMembers : List (String × Json) → List (String × State)
  | [] => []
  | (k, j) :: ms => (k, ofJson j) :: ofJsonMembers ms

end

end State

end RuleMatching
