import RuleMatching.Proofs.Json.Reading
import RuleMatching.Proofs.Rule.Document

/-!
Rules written as texts and read back.  The document of a rule has no floating point number and no more than
five arrays and objects inside each other, so it is read back from its text, and the rule from the
document: `rule_of_text`.
-/

set_option autoImplicit false
set_option relaxedAutoImplicit false

namespace RuleMatching

namespace Json

variable {members : List (String × Json)} {items : List Json} {limit : Nat}

theorem mem_of_mem_insertMember {name : String} {value : Json} {m : String × Json}
    (h : m ∈ insertMember name value members) : m = (name, value) ∨ m ∈ members := by
  induction members with
  | nil => exact .inl (List.mem_singleton.mp h)
  | cons n ns ih =>
    rw [insertMember] at h
    split_ifs at h
    · rcases List.mem_cons.mp h with rfl | hm
      · exact .inl rfl
      · exact .inr (List.mem_cons_of_mem n hm)
    · exact List.mem_cons.mp h
    · rcases List.mem_cons.mp h with rfl | hm
      · exact .inr List.mem_cons_self
      · exact (ih hm).imp_right (List.mem_cons_of_mem n)

/-- Adding a member keeps the order. -/
theorem pairwise_insertMember {name : String} {value : Json}
    (h : members.Pairwise fun m n => m.1 < n.1) :
    (insertMember name value members).Pairwise fun m n => m.1 < n.1 := by
  induction members with
  | nil => simp [insertMember]
  | cons n ns ih =>
    obtain ⟨hn, hns⟩ := List.pairwise_cons.mp h
    rw [insertMember]
    split_ifs with he hlt
    · exact List.pairwise_cons.mpr ⟨fun m hm => he ▸ hn m hm, hns⟩
    · refine List.pairwise_cons.mpr ⟨fun m hm => ?_, h⟩
      rcases List.mem_cons.mp hm with rfl | hm
      · exact hlt
      · exact String.lt_trans hlt (hn m hm)
    · refine List.pairwise_cons.mpr ⟨fun m hm => ?_, ih hns⟩
      rcases mem_of_mem_insertMember hm with rfl | hm
      · exact Decidable.byContradiction fun hnlt =>
          he (String.le_antisymm (String.not_lt.mp hnlt) (String.not_lt.mp hlt))
      · exact hn m hm

/-- The members that an object is made of, in order and without repetitions. -/
theorem exists_ofMembers (members : List (String × Json)) :
    ∃ ms, ofMembers members = object ms ∧ (ms.Pairwise fun m n => m.1 < n.1) ∧
      ∀ m ∈ ms, m ∈ members := by
  refine ⟨_, rfl, ?_⟩
  induction members using List.reverseRecOn with
  | nil => simp
  | append_singleton ms m ih =>
    rw [List.foldl_append, List.foldl_cons, List.foldl_nil]
    refine ⟨pairwise_insertMember ih.1, fun n hn => ?_⟩
    rcases mem_of_mem_insertMember hn with rfl | hn
    · exact List.mem_append_right ms (List.mem_singleton_self _)
    · exact List.mem_append_left _ (ih.2 n hn)

theorem itemNesting_le_iff : itemNesting items ≤ limit ↔ ∀ j ∈ items, nesting j ≤ limit := by
  induction items with
  | nil => simp [itemNesting]
  | cons j js ih => rw [itemNesting, Nat.max_le, ih, List.forall_mem_cons]

theorem memberNesting_le_iff :
    memberNesting members ≤ limit ↔ ∀ m ∈ members, nesting m.2 ≤ limit := by
  induction members with
  | nil => simp [memberNesting]
  | cons m ms ih => rw [memberNesting, Nat.max_le, ih, List.forall_mem_cons]

/-- A document that is read back, with no more than some number of arrays and objects inside each other. -/
def PlainWithin (limit : Nat) (j : Json) : Prop := Plain j ∧ nesting j ≤ limit

theorem PlainWithin.array (h : ∀ j ∈ items, PlainWithin limit j) :
    PlainWithin (limit + 1) (array items) :=
  ⟨.array fun j hj => (h j hj).1,
    Nat.succ_le_succ (itemNesting_le_iff.mpr fun j hj => (h j hj).2)⟩

theorem PlainWithin.ofMembers (h : ∀ m ∈ members, PlainWithin limit m.2) :
    PlainWithin (limit + 1) (ofMembers members) := by
  obtain ⟨ms, hms, hnames, hmem⟩ := exists_ofMembers members
  rw [hms]
  exact ⟨.object hnames fun m hm => (h m (hmem m hm)).1,
    Nat.succ_le_succ (memberNesting_le_iff.mpr fun m hm => (h m (hmem m hm)).2)⟩

theorem PlainWithin.string (s : String) : PlainWithin limit (string s) :=
  ⟨.string s, Nat.zero_le limit⟩

theorem PlainWithin.bool (b : Bool) : PlainWithin limit (bool b) := ⟨.bool b, Nat.zero_le limit⟩

theorem PlainWithin.mono {j : Json} {limit' : Nat} (h : PlainWithin limit j) (hle : limit ≤ limit') :
    PlainWithin limit' j := ⟨h.1, Nat.le_trans h.2 hle⟩

end Json

namespace Document

open Json

theorem plainWithin_writeStrings (ss : List String) : PlainWithin 1 (writeStrings ss) := by
  refine .array fun j hj => ?_
  obtain ⟨s, -, rfl⟩ := List.mem_map.mp hj
  exact .string s

theorem plainWithin_writePairs (ps : List (String × String)) : PlainWithin 2 (writePairs ps) := by
  refine .array fun j hj => ?_
  obtain ⟨p, -, rfl⟩ := List.mem_map.mp hj
  exact .array (by simp [PlainWithin.string])

theorem plainWithin_unlessNone {α : Type} {limit : Nat} {name : String} {write : α → Json}
    (h : ∀ a, PlainWithin limit (write a)) (a : Option α) :
    ∀ m ∈ unlessNone name write a, PlainWithin limit m.2 := by
  cases a with
  | none => simp [unlessNone]
  | some a => simpa [unlessNone] using h a

theorem plainWithin_writeOperand (o : Operand) : ∀ m ∈ writeOperand o, PlainWithin 2 m.2 := by
  cases o with
  | none => simp [writeOperand]
  | list data => simpa [writeOperand] using (plainWithin_writeStrings data).mono (by decide)
  | dict pairs => simpa [writeOperand] using plainWithin_writePairs pairs

theorem plainWithin_ofClause (c : Clause) : PlainWithin 3 (ofClause c) := by
  have harguments : PlainWithin 2 (writeStrings c.arguments) :=
    (plainWithin_writeStrings c.arguments).mono (by decide)
  refine .ofMembers ?_
  simp only [List.forall_mem_append]
  refine ⟨⟨⟨⟨⟨⟨?_, ?_⟩, ?_⟩, ?_⟩, ?_⟩, ?_⟩, ?_⟩
  · simp [PlainWithin.string]
  · exact plainWithin_unlessNone PlainWithin.string c.field
  · exact plainWithin_writeOperand c.operand
  · exact plainWithin_unlessNone PlainWithin.string c.customOperation
  · simp [PlainWithin.bool]
  · exact plainWithin_unlessNone PlainWithin.string c.label
  · split_ifs <;> simp [harguments]

theorem plainWithin_severity (n : Int32) : PlainWithin 0 (.int n.toInt) := by
  have hlow := n.le_toInt
  have hhigh := n.toInt_lt
  refine ⟨.int ?_ ?_, Nat.le_refl 0⟩
  · simp only [Numeral.integerBound]
    omega
  · simp only [Numeral.wordBound]
    omega

theorem plainWithin_ofRule (r : Rule) : PlainWithin 5 (ofRule r) := by
  have hclauses : PlainWithin 4 (.array (r.clauses.map ofClause)) := by
    refine .array fun j hj => ?_
    obtain ⟨c, -, rfl⟩ := List.mem_map.mp hj
    exact plainWithin_ofClause c
  refine .ofMembers ?_
  simp only [List.forall_mem_append]
  refine ⟨⟨⟨⟨⟨?_, ?_⟩, ?_⟩, ?_⟩, ?_⟩, ?_⟩
  · simp [PlainWithin.string]
  · exact plainWithin_unlessNone PlainWithin.string r.description
  · exact plainWithin_unlessNone PlainWithin.string r.target
  · simpa using hclauses
  · exact plainWithin_unlessNone PlainWithin.string r.expression
  · simp [(plainWithin_severity r.severity).mono, (plainWithin_writeStrings r.tags.names).mono]

/-- The document of a rule is read back from its text. -/
theorem read?_ofRule (r : Rule) : read? (ofRule r).text = some (ofRule r) := by
  obtain ⟨hplain, hnesting⟩ := plainWithin_ofRule r
  rw [read?, readWithin?_text hplain, if_pos (Nat.le_trans hnesting (by decide))]

/-- A rule is read back from its text as it was. -/
theorem rule_of_text (freshId : String) (r : Rule) :
    (read? (ofRule r).text).map (rule freshId) = some (.ok r) := by
  rw [read?_ofRule, Option.map_some, rule_ofRule]

end Document

end RuleMatching
