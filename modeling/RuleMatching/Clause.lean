import RuleMatching.Operation
import RuleMatching.Text.Numeral

/-!
Clauses, the single conditions that rules are made of.
-/

set_option autoImplicit false
set_option relaxedAutoImplicit false

namespace RuleMatching

/-- What a clause compares with: nothing, a list of texts, or a list of pairs. -/
inductive Operand where
  | none
  | list (data : List String)
  | dict (pairs : List (String × String))
  deriving DecidableEq, Repr

namespace Operand

def data : Operand → List String
  | list data => data
  | _ => []

def dictData : Operand → List (String × String)
  | dict pairs => pairs
  | _ => []

def isNone : Operand → Bool
  | none => true
  | _ => false

def isDict : Operand → Bool
  | dict _ => true
  | _ => false

end Operand

/-- A clause.  Without a field path it looks at the whole state. -/
structure Clause where
  operation : Operation
  field : Option String
  operand : Operand
  customOperation : Option String
  invert : Bool
  capture : Bool
  label : Option String
  arguments : List String
  deriving DecidableEq, Repr

namespace Clause

def ofOperation (operation : Operation) : Clause :=
  ⟨operation, none, .none, none, false, false, none, []⟩

def data (c : Clause) : List String := c.operand.data

def dictData (c : Clause) : List (String × String) := c.operand.dictData

def withField (c : Clause) (path : String) : Clause := { c with field := some path }

/-- The clause with a list of texts to compare with. -/
def withData (c : Clause) (data : List String) : Clause := { c with operand := .list data }

/-- The clause with a list of pairs to compare with. -/
def withDictData (c : Clause) (pairs : List (String × String)) : Clause :=
  { c with operand := .dict pairs }

def withLabel (c : Clause) (label : String) : Clause := { c with label := some label }

def withCustomOperation (c : Clause) (name : String) : Clause :=
  { c with operation := .custom, customOperation := some name }

def withArguments (c : Clause) (arguments : List String) : Clause :=
  { c with arguments := arguments }

def inverted (c : Clause) : Clause := { c with invert := true }

/-- The clause with its `invert` flag negated. -/
def flipped (c : Clause) : Clause := { c with invert := !c.invert }

def capturing (c : Clause) : Clause := { c with capture := true }

/-- How a clause is called in messages: by its label, else by its place in its rule, if it has
one. -/
def callName (c : Clause) (place : Option Nat) : String :=
  match c.label, place with
  | some label, _ => label
  | none, some i => Numeral.text i
  | none, none => ""

end Clause

/-- A clause with its place in its rule. -/
structure ClauseAt where
  index : Nat
  clause : Clause
  deriving DecidableEq, Repr

/-- How a clause in its place is called in messages. -/
def ClauseAt.callName (c : ClauseAt) : String := c.clause.callName (some c.index)

end RuleMatching
