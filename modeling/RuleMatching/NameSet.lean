/-!
Finite sets of names, as lists in ascending order.  There is one list for each set: a set is given
by its members, `NameSet.mem_insert` and `NameSet.mem_ofList`.
-/

set_option autoImplicit false
set_option relaxedAutoImplicit false

namespace RuleMatching

/-- A set of names. -/
structure NameSet where
  names : List String
  ascending : names.Pairwise (· < ·)
  deriving DecidableEq, Repr

namespace NameSet

/-- Puts a name where it belongs in a list in ascending order, unless it is there. -/
def insertInto (name : String) : List String → List String
  | [] => [name]
  | n :: ns =>
      if name = n then n :: ns
      else if name < n then name :: n :: ns
      else n :: insertInto name ns

/-- Inserting a name adds just that name. -/
theorem mem_insertInto {m name : String} {names : List String} :
    m ∈ insertInto name names ↔ m = name ∨ m ∈ names := by
  induction names with
  | nil => simp [insertInto]
  | cons n ns ih =>
    by_cases he : name = n
    · simp [insertInto, he]
    · by_cases hl : name < n
      · simp [insertInto, he, hl]
      · simp only [insertInto, he, hl, if_false, List.mem_cons, ih]
        constructor
        · rintro (h | h | h) <;> simp [h]
        · rintro (h | h | h) <;> simp [h]

/-- Inserting a name keeps the order. -/
theorem pairwise_insertInto {name : String} {names : List String}
    (h : names.Pairwise (· < ·)) : (insertInto name names).Pairwise (· < ·) := by
  induction names with
  | nil => simp [insertInto]
  | cons n ns ih =>
    obtain ⟨hn, hns⟩ := List.pairwise_cons.1 h
    by_cases he : name = n
    · simpa [insertInto, he] using h
    · by_cases hl : name < n
      · simp only [insertInto, he, hl, if_false, if_true]
        refine List.pairwise_cons.2 ⟨?_, h⟩
        intro m hm
        rcases List.mem_cons.1 hm with rfl | hm
        · exact hl
        · exact String.lt_trans hl (hn m hm)
      · simp only [insertInto, he, hl, if_false]
        refine List.pairwise_cons.2 ⟨?_, ih hns⟩
        intro m hm
        rcases mem_insertInto.1 hm with rfl | hm
        · apply Decidable.byContradiction
          intro hm
          exact he (String.le_antisymm (String.not_lt.1 hm) (String.not_lt.1 hl))
        · exact hn m hm

def empty : NameSet := ⟨[], List.Pairwise.nil⟩

def insert (s : NameSet) (name : String) : NameSet :=
  ⟨insertInto name s.names, pairwise_insertInto s.ascending⟩

def ofList : List String → NameSet
  | [] => empty
  | n :: ns => (ofList ns).insert n

def contains (s : NameSet) (name : String) : Bool := s.names.contains name

def union (s t : NameSet) : NameSet := ofList (s.names ++ t.names)

instance : Membership String NameSet := ⟨fun s name => name ∈ s.names⟩

@[simp] theorem mem_names {s : NameSet} {name : String} : name ∈ s.names ↔ name ∈ s := Iff.rfl

/-- A set has no name twice. -/
theorem nodup_names (s : NameSet) : s.names.Nodup := by
  refine s.ascending.imp ?_
  rintro m n hlt rfl
  exact String.lt_irrefl m hlt

@[simp] theorem contains_iff {s : NameSet} {name : String} :
    s.contains name = true ↔ name ∈ s := by
  simp [contains]

@[simp] theorem mem_insert {s : NameSet} {m name : String} :
    m ∈ s.insert name ↔ m = name ∨ m ∈ s := mem_insertInto

@[simp] theorem mem_ofList {names : List String} {name : String} :
    name ∈ ofList names ↔ name ∈ names := by
  induction names with
  | nil => simp [ofList, empty, ← mem_names]
  | cons n ns ih => simp [ofList, ih]

@[simp] theorem mem_union {s t : NameSet} {name : String} :
    name ∈ s.union t ↔ name ∈ s ∨ name ∈ t := by
  simp [union]

end NameSet

end RuleMatching
