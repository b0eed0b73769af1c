import RuleMatching.Settings.Document

/-!
Settings from the environment.  A variable whose name begins with `RULE_ANALYZER__` gives the
setting that the rest of the name leads to: names with two underscores or a full stop between them,
and places of items in brackets.  A variable whose name leads nowhere gives nothing.  The environment
goes before the document.
-/

set_option autoImplicit false
set_option relaxedAutoImplicit false

namespace RuleMatching.Setting

/-- What the names of variables begin with, in lower case. -/
def variableStart : String := "rule_analyzer__"

/-- A letter of the name of a variable, in lower case.  The sign for Kelvin is a K. -/
def lowerLetter (c : Char) : Char := if c = '\u212a' then 'k' else c.toLower

/-- Puts a full stop for each pair of underscores. -/
def separate : List Char → List Char
  | [] => []
  | '_' :: '_' :: cs => '.' :: separate cs
  | c :: cs => c :: separate cs

/-- Reads the place of an item, from behind the opening bracket. -/
def readPlace (cs : List Char) : Option (Int × List Char) :=
  let cs := skipSpaces cs
  let (negative, cs) := match cs with
    | '-' :: r => (true, r)
    | r => (false, r)
  match Numeral.digits? (cs.takeWhile Char.isDigit), skipSpaces (cs.dropWhile Char.isDigit) with
  | some n, ']' :: rest =>
      let i : Int := if negative then -(n : Int) else n
      if Numeral.fitsInteger i then some (i, rest) else none
  | _, _ => none

/-- Reads steps to their end: names behind full stops and places in brackets.  `fuel` bounds their
number. -/
def readSteps : Nat → List Char → Option (List Step)
  | _, [] => some []
  | fuel + 1, '.' :: r => do
      let (name, rest) ← readName r
      (readSteps fuel rest).map (.name name :: ·)
  | fuel + 1, '[' :: r => do
      let (i, rest) ← readPlace r
      (readSteps fuel rest).map (.place i :: ·)
  | _, _ => none

/-- The steps to the setting that a variable gives, if it gives one. -/
def variableSteps? (name : String) : Option (List Step) :=
  let lower := name.toList.map lowerLetter
  if variableStart.toList.isPrefixOf lower then
    let path := separate (lower.drop variableStart.length)
    readSteps (path.length + 1) ('.' :: path)
  else none

def ofVariable (value : String) : Setting :=
  let word := Text.lower value
  if word = "true" then bool true
  else if word = "false" then bool false
  else
    match Numeral.integer? value.toList with
    | some i => int i.toInt
    | none =>
        match Binary64.read? value with
        | some x => float x
        | none => text value

def addVariables (t : Table) : List (String × String) → Table
  | [] => t
  | (name, value) :: vs =>
      match variableSteps? name with
      | some steps => addVariables (putAt (ofVariable value) steps (table t)).members vs
      | none => addVariables t vs

end RuleMatching.Setting

namespace RuleMatching

/-- The settings of a document, if there is one, and of the environment. -/
def Settings.read? (document : Option String) (environment : List (String × String)) :
    Option Settings := do
  let t ← match document with
    | some text => Setting.readDocument? text
    | none => some []
  Settings.ofTable? (Setting.addVariables t environment)

end RuleMatching
