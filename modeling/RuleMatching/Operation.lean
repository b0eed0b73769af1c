/-!
The operations of clauses.
-/

set_option autoImplicit false
set_option relaxedAutoImplicit false

namespace RuleMatching

/-- What a clause tests.  All operations but the last are built in. -/
inductive Operation where
  | equals
  | lessThan
  | greaterThan
  | contains
  | containsAny
  | containsKey
  | startsWith
  | endsWith
  | regex
  | isNull
  | isTrue
  | wasModified
  | isBefore
  | isAfter
  | isExpired
  | custom
  deriving DecidableEq, Repr

namespace Operation

def all : List Operation :=
  [equals, lessThan, greaterThan, contains, containsAny, containsKey, startsWith, endsWith, regex,
    isNull, isTrue, wasModified, isBefore, isAfter, isExpired, custom]

def name : Operation → String
  | equals => "Equals"
  | lessThan => "LessThan"
  | greaterThan => "GreaterThan"
  | contains => "Contains"
  | containsAny => "ContainsAny"
  | containsKey => "ContainsKey"
  | startsWith => "StartsWith"
  | endsWith => "EndsWith"
  | regex => "Regex"
  | isNull => "IsNull"
  | isTrue => "IsTrue"
  | wasModified => "WasModified"
  | isBefore => "IsBefore"
  | isAfter => "IsAfter"
  | isExpired => "IsExpired"
  | custom => "Custom"

def ofName? (s : String) : Option Operation := all.find? fun o => o.name == s

/-- The name of an operation names it. -/
theorem ofName?_name (o : Operation) : ofName? o.name = some o := by
  cases o <;> decide

def index (o : Operation) : Nat := all.idxOf o

end Operation

end RuleMatching
