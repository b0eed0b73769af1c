import Mathlib.Data.List.Induction
import RuleMatching.Rule.Document

/-!
Rules written as documents and read back.  What is written for each kind of field restores it, so a
rule is read back from its document as it was: `rule_ofRule`.  A clause is read in two steps, as a
draft in which both kinds of operand are still apart, and then as a clause, which is where the
operand is refused: `clause_eq`.
-/

set_option autoImplicit false
set_option relaxedAutoImplicit false

namespace RuleMatching

/-! ### Members -/

namespace Json

variable {name name' : String} {value : Json} {members members' : List (String × Json)}

theorem member?_cons : (object ((name, value) :: members)).member? name' =
    if name = name' then some value else (object members).member? name' := by
  by_cases h : name = name' <;> simp [member?, h]

theorem member?_append : (object (members ++ members')).member? name =
    ((object members).member? name).or ((object members').member? name) := by
  simp [member?, List.find?_append, Option.map_or]

/-- Adding a member changes what stands under its name, and nothing else. -/
theorem member?_insertMember : (object (insertMember name value members)).member? name' =
    if name = name' then some value else (object members).member? name' := by
  induction members with
  | nil => rw [insertMember, member?_cons]
  | cons m ms ih =>
    obtain ⟨n, v⟩ := m
    rw [insertMember]
    by_cases he : name = n
    · subst he
      rw [if_pos rfl, member?_cons, member?_cons]
      split <;> rfl
    · rw [if_neg he]
      by_cases hlt : name < n
      · rw [if_pos hlt, member?_cons]
      · rw [if_neg hlt, member?_cons, member?_cons, ih]
        by_cases hn : n = name'
        · subst hn
          rw [if_pos rfl, if_neg he, if_pos rfl]
        · rw [if_neg hn, if_neg hn]

/-- Of the members that an object is made of, the last with a name is the one that it has. -/
theorem member?_ofMembers (members : List (String × Json)) (name : String) :
    (ofMembers members).member? name = (object members.reverse).member? name := by
  rw [ofMembers]
  induction members using List.reverseRecOn with
  | nil => rfl
  | append_singleton ms m ih =>
    rw [List.foldl_append, List.foldl_cons, List.foldl_nil, member?_insertMember,
      List.reverse_concat, ih]
    exact member?_cons.symm

end Json

namespace NameSet

/-- Names in ascending order are those of their set. -/
theorem names_ofList {names : List String} (h : names.Pairwise (· < ·)) :
    (ofList names).names = names := by
  induction names with
  | nil => rfl
  | cons n ns ih =>
    obtain ⟨hn, hns⟩ := List.pairwise_cons.mp h
    rw [ofList, insert]
    simp only [ih hns]
    cases ns with
    | nil => rfl
    | cons m ns =>
      have hlt : n < m := hn m List.mem_cons_self
      have hne : n ≠ m := by
        rintro rfl
        exact String.lt_irrefl n hlt
      rw [insertInto, if_neg hne, if_pos hlt]

/-- The set of the names of a set is that set. -/
theorem ofList_names (s : NameSet) : ofList s.names = s := by
  obtain ⟨names, ascending⟩ := s
  have hnames := names_ofList ascending
  generalize ofList names = t at hnames ⊢
  obtain ⟨names', ascending'⟩ := t
  subst hnames
  rfl

end NameSet

namespace Document

/-! ### Values -/

theorem bind_eq_ok_iff {α β : Type} {x : Reading α} {f : α → Reading β} {b : β} :
    x >>= f = .ok b ↔ ∃ a, x = .ok a ∧ f a = .ok b := by
  cases x with
  | error e => simp [bind, Except.bind]
  | ok a => simp [bind, Except.bind]

/-- What is written for a value is read as that value. -/
def Restores {α : Type} (read : Json → Reading α) (write : α → Json) : Prop :=
  ∀ a, read (write a) = .ok a

theorem restores_string : Restores string .string := fun _ => rfl

theorem restores_bool : Restores bool .bool := fun _ => rfl

theorem restores_operation : Restores operation fun o => .string o.name := by
  intro o
  rw [operation, Operation.ofName?_name]
  rfl

theorem restores_pair : Restores pair fun p => .array [.string p.1, .string p.2] := fun _ => rfl

theorem restores_int32 : Restores int32 fun i => .int i.toInt := by
  intro i
  have hlower := i.le_toInt
  have hupper := i.toInt_lt
  rw [int32, if_pos ⟨by simpa using hlower, by simpa using hupper⟩, Int32.ofInt_toInt]

theorem forEach_map {α : Type} {read : Json → Reading α} {write : α → Json} {as : List α}
    (h : ∀ a ∈ as, read (write a) = .ok a) : forEach read (as.map write) = .ok as := by
  induction as with
  | nil => rfl
  | cons a as ih =>
    rw [List.map_cons, forEach, h a List.mem_cons_self,
      ih fun b hb => h b (List.mem_cons_of_mem a hb)]
    rfl

theorem Restores.list {α : Type} {read : Json → Reading α} {write : α → Json}
    (h : Restores read write) : Restores (Document.list read) fun as => .array (as.map write) :=
  fun _ => forEach_map fun a _ => h a

/-- A field that may be missing is restored from what is written unless there is nothing, as long as
no value is written as null. -/
theorem optional_map {α : Type} {read : Json → Reading α} {write : α → Json}
    (h : Restores read write) (hnull : ∀ a, write a ≠ .null) (o : Option α) :
    optional read (o.map write) = .ok o := by
  cases o with
  | none => rfl
  | some a =>
    have hread : nullable read (write a) = (read (write a)).map some := by
      unfold nullable
      split
      · rename_i hwrite
        exact absurd hwrite (hnull a)
      · rfl
    rw [Option.map_some, optional, hread, h a]
    rfl

/-- The object with those members that are there. -/
def ofPresent (members : List (String × Option Json)) : Json :=
  Json.ofMembers (members.flatMap fun m => (m.2.map fun j => (m.1, j)).toList)

/-- If no name occurs twice among the members, each stands under its name. -/
theorem member?_ofPresent {members : List (String × Option Json)}
    (hnodup : (members.map (·.1)).Nodup) (name : String) :
    (ofPresent members).member? name = (members.lookup name).join := by
  rw [ofPresent, Json.member?_ofMembers]
  induction members with
  | nil => rfl
  | cons m ms ih =>
    obtain ⟨n, o⟩ := m
    obtain ⟨hn, hms⟩ := List.nodup_cons.mp hnodup
    have hrest := ih hms
    rw [List.flatMap_cons, List.reverse_append, Json.member?_append]
    by_cases hname : n = name
    · subst hname
      have hlookup : ms.lookup n = none := by
        rw [List.lookup_eq_none_iff]
        intro p hp
        simpa using fun h : n = p.1 => hn (List.mem_map.mpr ⟨p, hp, h.symm⟩)
      rw [hrest, hlookup, Option.join_none, Option.none_or]
      cases o with
      | none => simp [Json.member?]
      | some j => simp [Json.member?_cons]
    · have hlookup : ((n, o) :: ms).lookup name = ms.lookup name := by
        simp [List.lookup_cons, beq_false_of_ne (Ne.symm hname)]
      have hnil : (Json.object []).member? name = none := rfl
      rw [hlookup, hrest]
      cases o with
      | none => simp [hnil]
      | some j => simp [Json.member?_cons, hname, hnil]

/-- The fields of such an object are its members. -/
theorem fields_ofPresent (names : List String) {members : List (String × Option Json)}
    (hnodup : (members.map (·.1)).Nodup) :
    fields names (ofPresent members) = .ok fun name => (members.lookup name).join := by
  rw [← funext (member?_ofPresent hnodup)]
  rfl

/-! ### Clauses -/

/-- A clause as it stands in a document, with the two kinds of operand apart. -/
structure Draft where
  operation : Operation
  field : Option String
  data : Option (List String)
  dictData : Option (List (String × String))
  customOperation : Option String
  invert : Bool
  capture : Bool
  label : Option String
  arguments : List String

/-- Reads a clause with the two kinds of operand apart. -/
def draft (j : Json) : Reading Draft := do
  let get ← fields clauseFields j
  let arguments ← withDefault [] (list string) (get "arguments")
  let capture ← withDefault false bool (get "capture")
  let customOperation ← optional string (get "custom_operation")
  let data ← optional (list string) (get "data")
  let dictData ← optional (list pair) (get "dict_data")
  let field ← optional string (get "field")
  let invert ← withDefault false bool (get "invert")
  let label ← optional string (get "label")
  let op ← required operation (get "operation")
  .ok ⟨op, field, data, dictData, customOperation, invert, capture, label, arguments⟩

/-- The clause of a draft, unless it has both kinds of operand. -/
def Draft.settle (d : Draft) : Reading Clause := do
  let operand ← operand d.operation d.data d.dictData
  .ok ⟨d.operation, d.field, operand, d.customOperation, d.invert, d.capture, d.label, d.arguments⟩

/-- A clause is read as a draft first. -/
theorem clause_eq (j : Json) : clause j = draft j >>= Draft.settle := by
  simp only [clause, draft, bind_assoc]
  rfl

/-- The draft of a clause. -/
def Draft.ofClause (c : Clause) : Draft where
  operation := c.operation
  field := c.field
  data := match c.operand with
    | .list data => some data
    | _ => none
  dictData := match c.operand with
    | .dict pairs => some pairs
    | _ => none
  customOperation := c.customOperation
  invert := c.invert
  capture := c.capture
  label := c.label
  arguments := c.arguments

theorem settle_ofClause (c : Clause) : (Draft.ofClause c).settle = .ok c := by
  cases c with
  | mk operation field operand => cases operand <;> rfl

/-- The members of the document of a clause. -/
def clauseMembers (c : Clause) : List (String × Option Json) :=
  [("operation", some (.string c.operation.name)), ("field", c.field.map .string),
    ("data", (Draft.ofClause c).data.map writeStrings),
    ("dict_data", (Draft.ofClause c).dictData.map writePairs),
    ("custom_operation", c.customOperation.map .string), ("invert", some (.bool c.invert)),
    ("capture", some (.bool c.capture)), ("label", c.label.map .string),
    ("arguments", if c.arguments.isEmpty then none else some (writeStrings c.arguments))]

theorem unlessNone_eq {α : Type} (name : String) (write : α → Json) (o : Option α) :
    unlessNone name write o = ((o.map write).map fun j => (name, j)).toList := by
  cases o <;> rfl

theorem ofClause_eq (c : Clause) : ofClause c = ofPresent (clauseMembers c) := by
  have hoperand : writeOperand c.operand =
      (((Draft.ofClause c).data.map writeStrings).map fun j => ("data", j)).toList ++
        (((Draft.ofClause c).dictData.map writePairs).map fun j => ("dict_data", j)).toList := by
    cases hoperand : c.operand <;> simp [Draft.ofClause, hoperand, writeOperand]
  rw [ofClause, ofPresent, clauseMembers, hoperand]
  simp only [unlessNone_eq, List.flatMap_cons, List.flatMap_nil]
  cases c.arguments.isEmpty <;> simp

/-- What stands in the document of a clause is its draft. -/
theorem draft_ofClause (c : Clause) : draft (ofClause c) = .ok (Draft.ofClause c) := by
  have hget : fields clauseFields (ofClause c) =
      .ok fun name => ((clauseMembers c).lookup name).join := by
    rw [ofClause_eq]
    exact fields_ofPresent clauseFields (by simp [clauseMembers])
  have harguments : withDefault [] (list string)
      (if c.arguments.isEmpty then none else some (writeStrings c.arguments)) =
        .ok c.arguments := by
    cases harguments : c.arguments with
    | nil => rfl
    | cons a as => exact restores_string.list (a :: as)
  have hstring := optional_map restores_string (by simp)
  have hdata := optional_map restores_string.list (by simp)
  have hdictData := optional_map restores_pair.list (by simp)
  refine bind_eq_ok_iff.mpr ⟨_, hget, bind_eq_ok_iff.mpr ⟨_, harguments, ?_⟩⟩
  refine bind_eq_ok_iff.mpr ⟨_, restores_bool c.capture, ?_⟩
  refine bind_eq_ok_iff.mpr ⟨_, hstring c.customOperation, ?_⟩
  refine bind_eq_ok_iff.mpr ⟨_, hdata _, bind_eq_ok_iff.mpr ⟨_, hdictData _, ?_⟩⟩
  refine bind_eq_ok_iff.mpr ⟨_, hstring c.field, ?_⟩
  refine bind_eq_ok_iff.mpr ⟨_, restores_bool c.invert, ?_⟩
  refine bind_eq_ok_iff.mpr ⟨_, hstring c.label, ?_⟩
  exact bind_eq_ok_iff.mpr ⟨_, restores_operation c.operation, rfl⟩

/-- A clause is read back from its document as it was. -/
theorem clause_ofClause (c : Clause) : clause (ofClause c) = .ok c := by
  rw [clause_eq, draft_ofClause]
  exact settle_ofClause c

/-! ### Rules -/

/-- The members of the document of a rule. -/
def ruleMembers (r : Rule) : List (String × Option Json) :=
  [("id", some (.string r.id)), ("name", some (.string r.name)),
    ("description", r.description.map .string), ("target", r.target.map .string),
    ("clauses", some (.array (r.clauses.map ofClause))), ("expression", r.expression.map .string),
    ("severity", some (.int r.severity.toInt)), ("tags", some (writeStrings r.tags.names))]

theorem ofRule_eq (r : Rule) : ofRule r = ofPresent (ruleMembers r) := by
  rw [ofRule, ofPresent, ruleMembers]
  simp only [unlessNone_eq, List.flatMap_cons, List.flatMap_nil]
  simp

/-- A rule is read back from its document as it was, whatever identifier is at hand for one without. -/
theorem rule_ofRule (freshId : String) (r : Rule) : rule freshId (ofRule r) = .ok r := by
  have hget : fields ruleFields (ofRule r) =
      .ok fun name => ((ruleMembers r).lookup name).join := by
    rw [ofRule_eq]
    exact fields_ofPresent ruleFields (by simp [ruleMembers])
  have hstring := optional_map restores_string (by simp)
  have hclauses : Restores clause ofClause := clause_ofClause
  refine bind_eq_ok_iff.mpr ⟨_, hget, bind_eq_ok_iff.mpr ⟨_, hclauses.list r.clauses, ?_⟩⟩
  refine bind_eq_ok_iff.mpr ⟨_, hstring r.description, ?_⟩
  refine bind_eq_ok_iff.mpr ⟨_, hstring r.expression, ?_⟩
  refine bind_eq_ok_iff.mpr ⟨_, restores_string r.id, ?_⟩
  refine bind_eq_ok_iff.mpr ⟨_, restores_string r.name, ?_⟩
  refine bind_eq_ok_iff.mpr ⟨_, restores_int32 r.severity, ?_⟩
  refine bind_eq_ok_iff.mpr ⟨_, restores_string.list r.tags.names, ?_⟩
  refine bind_eq_ok_iff.mpr ⟨_, hstring r.target, ?_⟩
  rw [NameSet.ofList_names]

/-! ### Refused operands -/

/-- A field of a clause document is there, and is not null. -/
def Given (j : Json) (name : String) : Prop :=
  ∃ get v, fields clauseFields j = .ok get ∧ get name = some v ∧ v ≠ .null

theorem given_iff {j : Json} {get : String → Option Json} (h : fields clauseFields j = .ok get)
    (name : String) : Given j name ↔ ∃ v, get name = some v ∧ v ≠ .null := by
  simp [Given, h]

/-- A field that may be missing has a value just if it is there and not null. -/
theorem isSome_of_optional {α : Type} {read : Json → Reading α} {field : Option Json} {o : Option α}
    (h : optional read field = .ok o) : o.isSome = true ↔ ∃ v, field = some v ∧ v ≠ .null := by
  cases field with
  | none =>
    obtain rfl := Except.ok.inj h
    simp
  | some j =>
    rw [optional] at h
    unfold nullable at h
    split at h
    · obtain rfl := Except.ok.inj h
      simp
    · rename_i hnull
      obtain ⟨a, -, h⟩ := bind_eq_ok_iff.mp ((bind_pure_comp some (read j)).trans h)
      obtain rfl := Except.ok.inj h
      simpa using hnull

/-- A draft has the kinds of operand that are given. -/
theorem isSome_of_draft {j : Json} {d : Draft} (h : draft j = .ok d) :
    (d.data.isSome = true ↔ Given j "data") ∧ (d.dictData.isSome = true ↔ Given j "dict_data") := by
  obtain ⟨get, hget, h⟩ := bind_eq_ok_iff.mp h
  obtain ⟨arguments, -, h⟩ := bind_eq_ok_iff.mp h
  obtain ⟨capture, -, h⟩ := bind_eq_ok_iff.mp h
  obtain ⟨customOperation, -, h⟩ := bind_eq_ok_iff.mp h
  obtain ⟨data, hdata, h⟩ := bind_eq_ok_iff.mp h
  obtain ⟨dictData, hdictData, h⟩ := bind_eq_ok_iff.mp h
  obtain ⟨field, -, h⟩ := bind_eq_ok_iff.mp h
  obtain ⟨invert, -, h⟩ := bind_eq_ok_iff.mp h
  obtain ⟨label, -, h⟩ := bind_eq_ok_iff.mp h
  obtain ⟨op, -, h⟩ := bind_eq_ok_iff.mp h
  obtain rfl := Except.ok.inj h
  exact ⟨(isSome_of_optional hdata).trans (given_iff hget "data").symm,
    (isSome_of_optional hdictData).trans (given_iff hget "dict_data").symm⟩

/-- A draft is refused just if it has both kinds of operand. -/
theorem settle_eq_error_iff {d : Draft} {e : DocumentError} : d.settle = .error e ↔
    e = .bothOperands d.operation ∧ d.data.isSome = true ∧ d.dictData.isSome = true := by
  cases d with
  | mk op field data dictData =>
    cases data <;> cases dictData <;> simp [Draft.settle, operand, bind, Except.bind, eq_comm]

/-- What goes wrong in a reading is that something does not have its form. -/
def OnlyMalformed {α : Type} (x : Reading α) : Prop := ∀ e, x = .error e → e = .malformed

theorem onlyMalformed_ok {α : Type} (a : α) : OnlyMalformed (.ok a) := by
  simp [OnlyMalformed]

theorem onlyMalformed_error {α : Type} : OnlyMalformed (.error .malformed : Reading α) := by
  simp [OnlyMalformed]

theorem OnlyMalformed.bind {α β : Type} {x : Reading α} {f : α → Reading β} (hx : OnlyMalformed x)
    (hf : ∀ a, OnlyMalformed (f a)) : OnlyMalformed (x >>= f) := by
  cases x with
  | error e =>
    intro e' h
    obtain rfl := Except.error.inj h
    exact hx e rfl
  | ok a => exact hf a

theorem onlyMalformed_demand {α : Type} (o : Option α) : OnlyMalformed (demand o) := by
  cases o with
  | none => exact onlyMalformed_error
  | some a => exact onlyMalformed_ok a

theorem onlyMalformed_list {α : Type} {read : Json → Reading α} (h : ∀ j, OnlyMalformed (read j))
    (j : Json) : OnlyMalformed (list read j) := by
  refine (onlyMalformed_demand _).bind fun js => ?_
  induction js with
  | nil => exact onlyMalformed_ok []
  | cons j js ih => exact (h j).bind fun a => ih.bind fun as => onlyMalformed_ok (a :: as)

theorem onlyMalformed_pair (j : Json) : OnlyMalformed (pair j) := by
  unfold pair
  split
  · exact onlyMalformed_ok _
  · exact onlyMalformed_error

theorem onlyMalformed_operation (j : Json) : OnlyMalformed (operation j) := by
  unfold operation
  split
  · exact onlyMalformed_demand _
  · exact onlyMalformed_demand _
  · exact onlyMalformed_error

theorem onlyMalformed_fields (names : List String) (j : Json) : OnlyMalformed (fields names j) := by
  unfold fields
  split
  · exact onlyMalformed_ok _
  · split
    · exact onlyMalformed_ok _
    · exact onlyMalformed_error
  · exact onlyMalformed_error

theorem onlyMalformed_optional {α : Type} {read : Json → Reading α}
    (h : ∀ j, OnlyMalformed (read j)) (field : Option Json) :
    OnlyMalformed (optional read field) := by
  cases field with
  | none => exact onlyMalformed_ok none
  | some j =>
    rw [optional]
    unfold nullable
    split
    · exact onlyMalformed_ok none
    · exact (h j).bind fun a => onlyMalformed_ok (some a)

theorem onlyMalformed_withDefault {α : Type} {read : Json → Reading α}
    (h : ∀ j, OnlyMalformed (read j)) (d : α) (field : Option Json) :
    OnlyMalformed (withDefault d read field) := by
  cases field with
  | none => exact onlyMalformed_ok d
  | some j => exact h j

theorem onlyMalformed_required {α : Type} {read : Json → Reading α}
    (h : ∀ j, OnlyMalformed (read j)) (field : Option Json) :
    OnlyMalformed (required read field) := by
  cases field with
  | none => exact onlyMalformed_error
  | some j => exact h j

theorem onlyMalformed_draft (j : Json) : OnlyMalformed (draft j) := by
  have hstring : ∀ j, OnlyMalformed (string j) := fun j => onlyMalformed_demand _
  have hbool : ∀ j, OnlyMalformed (bool j) := fun j => onlyMalformed_demand _
  refine (onlyMalformed_fields _ _).bind fun get => ?_
  refine (onlyMalformed_withDefault (onlyMalformed_list hstring) _ _).bind fun arguments => ?_
  refine (onlyMalformed_withDefault hbool _ _).bind fun capture => ?_
  refine (onlyMalformed_optional hstring _).bind fun customOperation => ?_
  refine (onlyMalformed_optional (onlyMalformed_list hstring) _).bind fun data => ?_
  refine (onlyMalformed_optional (onlyMalformed_list onlyMalformed_pair) _).bind fun dictData => ?_
  refine (onlyMalformed_optional hstring _).bind fun field => ?_
  refine (onlyMalformed_withDefault hbool _ _).bind fun invert => ?_
  refine (onlyMalformed_optional hstring _).bind fun label => ?_
  exact (onlyMalformed_required onlyMalformed_operation _).bind fun op => onlyMalformed_ok _

/-- A clause document is refused for its operand just if it can be read as a draft and both kinds of
operand are given. -/
theorem clause_eq_bothOperands_iff {j : Json} {op : Operation} :
    clause j = .error (.bothOperands op) ↔
      ∃ d, draft j = .ok d ∧ d.operation = op ∧ Given j "data" ∧ Given j "dict_data" := by
  rw [clause_eq]
  cases hdraft : draft j with
  | error e =>
    obtain rfl := onlyMalformed_draft j e hdraft
    simp [bind, Except.bind]
  | ok d =>
    obtain ⟨hdata, hdictData⟩ := isSome_of_draft hdraft
    have hsettle := @settle_eq_error_iff d (.bothOperands op)
    rw [hdata, hdictData, DocumentError.bothOperands.injEq] at hsettle
    simpa [eq_comm, bind, Except.bind] using hsettle

/-- Else a draft becomes a clause. -/
theorem exists_clause_of_draft {j : Json} {d : Draft} (h : draft j = .ok d)
    (hgiven : ¬(Given j "data" ∧ Given j "dict_data")) :
    ∃ operand, clause j = .ok ⟨d.operation, d.field, operand, d.customOperation, d.invert,
      d.capture, d.label, d.arguments⟩ := by
  obtain ⟨hdata, hdictData⟩ := isSome_of_draft h
  rw [← hdata, ← hdictData] at hgiven
  rw [clause_eq, h]
  cases d with
  | mk op field data dictData =>
    cases data <;> cases dictData <;> simp_all [Draft.settle, operand, bind, Except.bind]

/-- A rule is read back from its document as it was, so any document that is read as a rule can be
replaced by the one written from that rule.  Let a clause document be well typed but for its operand.
Then it is refused just if both kinds of operand are there and not null, with an error that names its
operation, and is read as a clause else. -/
theorem rule_survives :
    (∀ (freshId : String) (r : Rule), rule freshId (ofRule r) = .ok r) ∧
      (∀ (freshId freshId' : String) (j : Json) (r : Rule), rule freshId j = .ok r →
        rule freshId' (ofRule r) = .ok r) ∧
      (∀ (j : Json) (op : Operation), clause j = .error (.bothOperands op) ↔
        ∃ d, draft j = .ok d ∧ d.operation = op ∧ Given j "data" ∧ Given j "dict_data") ∧
      (∀ (j : Json) (d : Draft), draft j = .ok d → ¬(Given j "data" ∧ Given j "dict_data") →
        ∃ operand, clause j = .ok ⟨d.operation, d.field, operand, d.customOperation, d.invert,
          d.capture, d.label, d.arguments⟩) ∧
      ∀ op : Operation, ∃ front behind, bothOperandsMessage op = front ++ op.name ++ behind := by
  refine ⟨rule_ofRule, ?_, ?_, ?_, ?_⟩
  · intro _ freshId' _ r _
    exact rule_ofRule freshId' r
  · exact fun j op => clause_eq_bothOperands_iff
  · exact fun j d => exists_clause_of_draft
  · exact fun op => ⟨_, _, rfl⟩

private def containing (data dictData : Json) : Json :=
  .object [("operation", .string "Contains"), ("data", data), ("dict_data", dictData)]

private def emptyOperands : Json :=
  .object [("name", .string "r"), ("clauses", .array [containing (.array []) .null,
    containing .null (.array []), containing .null .null])]

/-- An empty list, an empty list of pairs and no operand are three operands, and stay so; an empty
list is refused beside an empty list of pairs, but null is not. -/
theorem rule_survives_emptyOperands :
    (∃ r, rule "a" emptyOperands = .ok r ∧
      r.clauses.map (·.operand) = [.list [], .dict [], .none] ∧ rule "b" (ofRule r) = .ok r) ∧
    clause (containing (.array []) (.array [])) = .error (.bothOperands .contains) ∧
    ∃ c, clause (containing .null (.array [])) = .ok c ∧ c.operation = .contains := by
  obtain ⟨-, hreload, hrefused, hread, -⟩ := rule_survives
  refine ⟨⟨_, rfl, rfl, hreload "a" "b" emptyOperands _ rfl⟩, ?_, ?_⟩
  · refine (hrefused _ .contains).mpr ⟨_, rfl, rfl, ?_, ?_⟩
    · exact ⟨_, .array [], rfl, rfl, by simp⟩
    · exact ⟨_, .array [], rfl, rfl, by simp⟩
  · have hnull : ¬(Given (containing .null (.array [])) "data" ∧
        Given (containing .null (.array [])) "dict_data") := by
      rintro ⟨⟨get, v, hget, hv, hne⟩, -⟩
      obtain rfl := Except.ok.inj hget
      exact hne (Option.some.inj hv).symm
    obtain ⟨operand, hclause⟩ := hread _ _ rfl hnull
    exact ⟨_, hclause, rfl⟩

end Document

end RuleMatching
