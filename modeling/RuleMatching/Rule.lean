import RuleMatching.Clause
import RuleMatching.NameSet

/-!
Rules: clauses, combined by an expression over their labels, with a target type, a severity and
tags.
-/

set_option autoImplicit false
set_option relaxedAutoImplicit false

namespace RuleMatching

/-- A rule. -/
structure Rule where
  id : String
  name : String
  description : Option String
  target : Option String
  clauses : List Clause
  expression : Option String
  severity : Int32
  tags : NameSet
  deriving DecidableEq, Repr

namespace Rule

/-- The rule without clauses with the given identifier and name. -/
def named (id name : String) : Rule := ⟨id, name, none, none, [], none, 0, .empty⟩

def withTarget (r : Rule) (target : String) : Rule := { r with target := some target }

def withClause (r : Rule) (clause : Clause) : Rule := { r with clauses := r.clauses ++ [clause] }

def withExpression (r : Rule) (expression : String) : Rule :=
  { r with expression := some expression }

def withSeverity (r : Rule) (severity : Int32) : Rule := { r with severity := severity }

def withTag (r : Rule) (tag : String) : Rule := { r with tags := r.tags.insert tag }

def withDescription (r : Rule) (description : String) : Rule :=
  { r with description := some description }

def mayCapture (r : Rule) : Bool := r.clauses.any (·.capture)

def clausesAt (r : Rule) : List ClauseAt := r.clauses.zipIdx.map fun p => ⟨p.2, p.1⟩

end Rule

end RuleMatching
