import RuleMatching.Binary64.Reading
import RuleMatching.Binary64.Shortest
import RuleMatching.Binary64.Whole
import RuleMatching.Settings
import RuleMatching.Text.Lookup

/-!
Settings by name, as documents and the environment give them.  A value is taken for what is asked
for if it can be understood that way: numbers and words stand for truth values, and everything has a
text.
-/

set_option autoImplicit false
set_option relaxedAutoImplicit false

namespace RuleMatching

/-- The value of a setting, or a table or list of settings.  A list may have gaps. -/
inductive Setting where
  | missing
  | bool (b : Bool)
  | int (i : Int)
  | float (x : Binary64)
  | text (s : String)
  | list (items : List Setting)
  | table (members : List (String × Setting))

namespace Setting

abbrev Table := List (String × Setting)

/-- Gives a name in a table a value, in place of the one it had. -/
def put (name : String) (value : Setting) : Table → Table
  | [] => [(name, value)]
  | m :: ms => if m.1 = name then (name, value) :: ms else m :: put name value ms

/-- The members of a table; of anything else, none. -/
def members : Setting → Table
  | table ms => ms
  | _ => []

/-- The items of a list; of anything else, none. -/
def items : Setting → List Setting
  | list xs => xs
  | _ => []

/-- Changes an item of a list that is filled up with gaps as far as needed. -/
def changeItem (change : Setting → Setting) : Nat → List Setting → List Setting
  | 0, [] => [change missing]
  | 0, x :: xs => change x :: xs
  | n + 1, [] => missing :: changeItem change n []
  | n + 1, x :: xs => x :: changeItem change n xs

/-- A step from a setting to a part of it: by name into a table, or by place into a list, where
places below zero count from the end. -/
inductive Step where
  | name (s : String)
  | place (i : Int)
  deriving DecidableEq, Repr

/-- Changes the item at a place of a list.  A place in front of the list makes it longer there. -/
def changePlace (change : Setting → Setting) (i : Int) (xs : List Setting) : List Setting :=
  match i with
  | .ofNat n => changeItem change n xs
  | .negSucc n =>
      if n < xs.length then changeItem change (xs.length - (n + 1)) xs
      else changeItem change 0 (List.replicate (n + 1 - xs.length) missing ++ xs)

/-- Gives what some steps lead to a value.  What stands in the way of a table or list is lost. -/
def putAt (value : Setting) : List Step → Setting → Setting
  | [], _ => value
  | .name s :: steps, t =>
      table (put s (putAt value steps ((Text.lookup s t.members).getD missing)) t.members)
  | .place i :: steps, t => list (changePlace (putAt value steps) i t.items)

def bool? : Setting → Option Bool
  | missing => none
  | bool b => some b
  | int i => some (i != 0)
  | float x => some (!x.isZero)
  | text s =>
      let word := Text.lower s
      if ["1", "true", "on", "yes"].contains word then some true
      else if ["0", "false", "off", "no"].contains word then some false
      else none
  | list _ => none
  | table _ => none

def word? : Setting → Option Nat
  | missing => none
  | bool b => some (if b then 1 else 0)
  | int i => if 0 ≤ i then some i.toNat else none
  | float x => some x.toWord
  | text s =>
      let word := Text.lower s
      if ["true", "on", "yes"].contains word then some 1
      else if ["false", "off", "no"].contains word then some 0
      else Numeral.index? s
  | list _ => none
  | table _ => none

def text? : Setting → Option String
  | missing => none
  | bool b => some (if b then "true" else "false")
  | int i => some (Numeral.integerText i)
  | float x => some x.text
  | text s => some s
  | list _ => none
  | table _ => none

/-- Settings for the given names: a table has them by name, a list in the order of the names. -/
def group? (names : List String) : Setting → Option Table
  | table ms => some ms
  | list xs => some (names.zip xs)
  | _ => none

/-- What stands at a name, read in a way; the given value if there is nothing. -/
def readOr {α : Type} (d : α) (read : Setting → Option α) (name : String) (t : Table) : Option α :=
  match Text.lookup name t with
  | none => some d
  | some s => read s

/-- What stands at a name, read in a way, or nothing; a gap counts as nothing. -/
def readOptional {α : Type} (read : Setting → Option α) (name : String) (t : Table) :
    Option (Option α) :=
  match Text.lookup name t with
  | none => some none
  | some missing => some none
  | some s => (read s).map some

end Setting

/-- The settings in a table.  What is missing has its default, and unknown names do not count. -/
def Settings.ofTable? (t : Setting.Table) : Option Settings := do
  let regex ← Setting.readOr [] (Setting.group? ["size_limit"]) "regex" t
  let logging ← Setting.readOr [] (Setting.group? ["log_level", "json_logs"]) "logging" t
  let shortCircuit ← Setting.readOr default.shortCircuit Setting.bool? "short_circuit" t
  let workers ← Setting.readOptional Setting.word? "workers" t
  let trace ← Setting.readOr default.trace Setting.bool? "trace" t
  let sizeLimit ← Setting.readOptional Setting.word? "size_limit" regex
  let logLevel ← Setting.readOr default.logLevel Setting.text? "log_level" logging
  let jsonLogs ← Setting.readOr default.jsonLogs Setting.bool? "json_logs" logging
  some ⟨shortCircuit, workers, trace, sizeLimit, logLevel, jsonLogs⟩

end RuleMatching
