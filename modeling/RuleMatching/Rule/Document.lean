import RuleMatching.Json
import RuleMatching.Rule

/-!
Rules and clauses as JSON documents.  A document gives the fields of a rule by name, or all of them
by place.  A field that may be missing may also be null; a field with a default may be missing.
Reading a document that was written from a rule gives that rule.
-/

set_option autoImplicit false
set_option relaxedAutoImplicit false

namespace RuleMatching

/-- Why a document is no rule: it does not have the form of one, or a clause has both kinds of
operand. -/
inductive DocumentError where
  | malformed
  | bothOperands (operation : Operation)
  deriving DecidableEq, Repr

/-- The message about a clause with both kinds of operand. -/
def bothOperandsMessage (operation : Operation) : String :=
  "子句操作数无效: " ++ operation.name ++ " 子句不能同时设置 data 与 dict_data"

namespace Document

/-- The outcome of reading a part of a document. -/
abbrev Reading (α : Type) := Except DocumentError α

/-- The value, or the error of a part that does not have its form. -/
def demand {α : Type} : Option α → Reading α
  | some a => .ok a
  | none => .error .malformed

def forEach {α : Type} (read : Json → Reading α) : List Json → Reading (List α)
  | [] => .ok []
  | j :: js => do
      let a ← read j
      let as ← forEach read js
      .ok (a :: as)

def string (j : Json) : Reading String := demand j.string?

def bool (j : Json) : Reading Bool := demand j.bool?

def list {α : Type} (read : Json → Reading α) (j : Json) : Reading (List α) := do
  forEach read (← demand j.array?)

def pair : Json → Reading (String × String)
  | .array [.string k, .string v] => .ok (k, v)
  | _ => .error .malformed

def int32 : Json → Reading Int32
  | .int i => if -2147483648 ≤ i ∧ i < 2147483648 then .ok (Int32.ofInt i) else .error .malformed
  | _ => .error .malformed

def nullable {α : Type} (read : Json → Reading α) : Json → Reading (Option α)
  | .null => .ok none
  | j => (read j).map some

/-- Reads a field that may be missing or null. -/
def optional {α : Type} (read : Json → Reading α) : Option Json → Reading (Option α)
  | none => .ok none
  | some j => nullable read j

def withDefault {α : Type} (d : α) (read : Json → Reading α) : Option Json → Reading α
  | none => .ok d
  | some j => read j

def required {α : Type} (read : Json → Reading α) : Option Json → Reading α
  | none => .error .malformed
  | some j => read j

/-- The fields of a document, by name or, in an array, by their places in `names`. -/
def fields (names : List String) : Json → Reading (String → Option Json)
  | .object members => .ok fun name => (Json.object members).member? name
  | .array items =>
      if items.length ≤ names.length then
        .ok fun name => (names.idxOf? name).bind fun i => items[i]?
      else .error .malformed
  | _ => .error .malformed

/-- Reads an operation: its name, or an object with its name as the only member and null in it. -/
def operation : Json → Reading Operation
  | .string s => demand (Operation.ofName? s)
  | .object [(s, .null)] => demand (Operation.ofName? s)
  | _ => .error .malformed

def clauseFields : List String :=
  ["operation", "field", "data", "dict_data", "custom_operation", "invert", "capture", "label",
    "arguments"]

/-- The operand of a clause, of which at most one kind may be there. -/
def operand (operation : Operation) :
    Option (List String) → Option (List (String × String)) → Reading Operand
  | some _, some _ => .error (.bothOperands operation)
  | some data, none => .ok (.list data)
  | none, some pairs => .ok (.dict pairs)
  | none, none => .ok .none

def clause (j : Json) : Reading Clause := do
  let get ← fields clauseFields j
  let arguments ← withDefault [] (list string) (get "arguments")
  let capture ← withDefault false bool (get "capture")
  let customOperation ← optional string (get "custom_operation")
  let data ← optional (list string) (get "data")
  let dictData ← optional (list pair) (get "dict_data")
  let field ← optional string (get "field")
  let invert ← withDefault false bool (get "invert")
  let label ← optional string (get "label")
  let op ← required operation (get "operation")
  let operand ← operand op data dictData
  .ok ⟨op, field, operand, customOperation, invert, capture, label, arguments⟩

def ruleFields : List String :=
  ["id", "name", "description", "target", "clauses", "expression", "severity", "tags"]

/-- Reads a rule; one without an identifier gets the given one. -/
def rule (freshId : String) (j : Json) : Reading Rule := do
  let get ← fields ruleFields j
  let clauses ← withDefault [] (list clause) (get "clauses")
  let description ← optional string (get "description")
  let expression ← optional string (get "expression")
  let id ← withDefault freshId string (get "id")
  let name ← required string (get "name")
  let severity ← withDefault 0 int32 (get "severity")
  let tags ← withDefault [] (list string) (get "tags")
  let target ← optional string (get "target")
  .ok ⟨id, name, description, target, clauses, expression, severity, .ofList tags⟩

/-- A member that is left out when there is nothing. -/
def unlessNone {α : Type} (name : String) (write : α → Json) : Option α → List (String × Json)
  | none => []
  | some a => [(name, write a)]

def writeStrings (ss : List String) : Json := .array (ss.map .string)

def writePairs (ps : List (String × String)) : Json :=
  .array (ps.map fun p => .array [.string p.1, .string p.2])

def writeOperand : Operand → List (String × Json)
  | .none => []
  | .list data => [("data", writeStrings data)]
  | .dict pairs => [("dict_data", writePairs pairs)]

def ofClause (c : Clause) : Json :=
  Json.ofMembers
    ([("operation", .string c.operation.name)] ++ unlessNone "field" .string c.field ++
      writeOperand c.operand ++ unlessNone "custom_operation" .string c.customOperation ++
      [("invert", .bool c.invert), ("capture", .bool c.capture)] ++
      unlessNone "label" .string c.label ++
      (if c.arguments.isEmpty then [] else [("arguments", writeStrings c.arguments)]))

def ofRule (r : Rule) : Json :=
  Json.ofMembers
    ([("id", .string r.id), ("name", .string r.name)] ++
      unlessNone "description" .string r.description ++ unlessNone "target" .string r.target ++
      [("clauses", .array (r.clauses.map ofClause))] ++
      unlessNone "expression" .string r.expression ++
      [("severity", .int r.severity.toInt), ("tags", writeStrings r.tags.names)])

end Document

end RuleMatching
