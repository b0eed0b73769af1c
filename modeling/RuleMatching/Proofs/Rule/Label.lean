import Mathlib.Tactic.ByContra
import RuleMatching.Proofs.Text.Numeral
import RuleMatching.Rule.Label

/-!
Which clause a label names: the only one that has it, or the one in the place that the label is the
number of, `resolve_eq_ok_iff`.  There are two ways for a label to name none: no clause has it and it is
not the number of a place, or several clauses have it.
-/

set_option autoImplicit false
set_option relaxedAutoImplicit false

namespace RuleMatching.Rule

variable {r : Rule} {l : String}

@[simp] theorem map_clause_clausesAt (r : Rule) : r.clausesAt.map (·.clause) = r.clauses := by
  simp [clausesAt, List.map_map, Function.comp_def]

theorem map_index_clausesAt (r : Rule) :
    r.clausesAt.map (·.index) = List.range r.clauses.length := by
  rw [clausesAt, List.map_map, List.range_eq_range', ← List.zipIdx_map_snd]
  rfl

theorem clause_mem_clauses {c : ClauseAt} (hc : c ∈ r.clausesAt) : c.clause ∈ r.clauses := by
  rw [← map_clause_clausesAt r]
  exact List.mem_map_of_mem hc

/-- A clause stands in the place that it is numbered with. -/
theorem mem_clausesAt_iff {c : ClauseAt} :
    c ∈ r.clausesAt ↔ r.clauses[c.index]? = some c.clause := by
  rw [clausesAt, List.mem_map]
  constructor
  · rintro ⟨⟨d, i⟩, hd, rfl⟩
    exact List.mem_zipIdx_iff_getElem?.mp hd
  · exact fun h => ⟨(c.clause, c.index), List.mem_zipIdx_iff_getElem?.mpr h, rfl⟩

theorem map_clause_labelled (r : Rule) (l : String) :
    (r.labelled l).map (·.clause) = r.clauses.filter fun c => c.label == some l := by
  rw [labelled, ← map_clause_clausesAt r, List.filter_map]
  rfl

/-- As many clauses have a label as there are clauses that the label stands for. -/
theorem count_label (r : Rule) (l : String) :
    (r.clauses.map (·.label)).count (some l) = (r.labelled l).length := by
  rw [← List.length_map (fun c : ClauseAt => c.clause), map_clause_labelled,
    ← List.countP_eq_length_filter, List.count, List.countP_map]
  rfl

theorem labelled_ne_nil_iff : r.labelled l ≠ [] ↔ ∃ c ∈ r.clauses, c.label = some l := by
  have hmem : r.labelled l ≠ [] ↔ ∃ c ∈ r.clausesAt, c.clause.label = some l := by
    simp [labelled]
  rw [hmem, ← map_clause_clausesAt r]
  constructor
  · rintro ⟨c, hc, hl⟩
    exact ⟨c.clause, List.mem_map_of_mem hc, hl⟩
  · rintro ⟨c, hc, hl⟩
    obtain ⟨d, hd, rfl⟩ := List.mem_map.mp hc
    exact ⟨d, hd, hl⟩

theorem resolve_eq_unknownLabel_iff :
    r.resolve l = .error (.unknownLabel l) ↔ r.labelled l = [] ∧ r.clauseAtIndex? l = none := by
  rw [resolve]
  rcases hcs : r.labelled l with _ | ⟨c, _ | ⟨d, cs⟩⟩
  · cases r.clauseAtIndex? l <;> simp
  · simp
  · simp

theorem resolve_eq_ambiguousLabel_iff :
    r.resolve l = .error (.ambiguousLabel l) ↔ 1 < (r.labelled l).length := by
  rw [resolve]
  rcases hcs : r.labelled l with _ | ⟨c, _ | ⟨d, cs⟩⟩
  · cases r.clauseAtIndex? l <;> simp
  · simp
  · simp

/-- A label that names no clause is unknown or ambiguous. -/
theorem eq_of_resolve_eq_error {err : RuleError} (h : r.resolve l = .error err) :
    err = .unknownLabel l ∨ err = .ambiguousLabel l := by
  rw [resolve] at h
  rcases hcs : r.labelled l with _ | ⟨c, _ | ⟨d, cs⟩⟩
  · rw [hcs] at h
    cases hplace : r.clauseAtIndex? l with
    | none =>
      rw [hplace] at h
      exact .inl (Except.error.inj h).symm
    | some c => simp [hplace] at h
  · simp [hcs] at h
  · rw [hcs] at h
    exact .inr (Except.error.inj h).symm

theorem mem_clausesAt_of_resolve_eq_ok {c : ClauseAt} (h : r.resolve l = .ok c) :
    c ∈ r.clausesAt := by
  rw [resolve] at h
  rcases hcs : r.labelled l with _ | ⟨d, _ | ⟨d', cs⟩⟩
  · rw [hcs] at h
    cases hplace : r.clauseAtIndex? l with
    | none => simp [hplace] at h
    | some d =>
      simp only [hplace, Except.ok.injEq] at h
      obtain ⟨i, -, hi⟩ := Option.bind_eq_some_iff.mp hplace
      exact h ▸ List.mem_of_getElem? hi
  · simp only [hcs, Except.ok.injEq] at h
    have hd : d ∈ r.labelled l := by simp [hcs]
    exact h ▸ (List.mem_filter.mp hd).1
  · simp [hcs] at h

theorem mem_clauses_of_resolve_eq_ok {c : ClauseAt} (h : r.resolve l = .ok c) :
    c.clause ∈ r.clauses :=
  clause_mem_clauses (mem_clausesAt_of_resolve_eq_ok h)

/-- Why a label names no clause, if it names none. -/
def resolutionError? (r : Rule) (l : String) : Option RuleError :=
  match r.resolve l with
  | .ok _ => none
  | .error err => some err

theorem resolutionError?_eq_some_iff {err : RuleError} :
    r.resolutionError? l = some err ↔ r.resolve l = .error err := by
  rw [resolutionError?]
  cases r.resolve l <;> simp

/-- Some of the labels name no clause just if some are unknown or ambiguous. -/
theorem exists_resolutionError_iff {labels : List String} :
    (∃ err, labels.findSome? r.resolutionError? = some err) ↔
      ∃ l ∈ labels, r.resolve l = .error (.unknownLabel l) ∨
        r.resolve l = .error (.ambiguousLabel l) := by
  constructor
  · rintro ⟨err, h⟩
    obtain ⟨l, hl, hresolve⟩ := List.exists_of_findSome?_eq_some h
    rw [resolutionError?_eq_some_iff] at hresolve
    refine ⟨l, hl, ?_⟩
    rcases eq_of_resolve_eq_error hresolve with rfl | rfl
    · exact .inl hresolve
    · exact .inr hresolve
  · rintro ⟨l, hl, hresolve⟩
    rw [← Option.isSome_iff_exists, List.findSome?_isSome_iff]
    rcases hresolve with h | h
    · exact ⟨l, hl, by simp [resolutionError?, h]⟩
    · exact ⟨l, hl, by simp [resolutionError?, h]⟩

/-! ### All clauses with a label -/

/-- A list has the clauses with a label, all of them, in the order of the rule. -/
structure ListsLabelled (r : Rule) (l : String) (cs : List ClauseAt) : Prop where
  mem_iff : ∀ c, c ∈ cs ↔ r.clauses[c.index]? = some c.clause ∧ c.clause.label = some l
  ascending : cs.Pairwise fun c d => c.index < d.index

theorem listsLabelled_labelled (r : Rule) (l : String) : r.ListsLabelled l (r.labelled l) where
  mem_iff c := by rw [labelled, List.mem_filter, mem_clausesAt_iff, beq_iff_eq]
  ascending := by
    have hindices : (r.clausesAt.map (·.index)).Pairwise (· < ·) := by
      rw [map_index_clausesAt]
      exact List.pairwise_lt_range
    exact (List.pairwise_map.mp hindices).filter _

/-- A label names a clause: the only one that has it, or, if no clause has it, the one in the place that
the label is the number of. -/
inductive Names (r : Rule) (l : String) (c : ClauseAt) : Prop
  | byLabel (hplace : r.clauses[c.index]? = some c.clause) (hlabel : c.clause.label = some l)
      (hsole : ∀ (i : Nat) d, r.clauses[i]? = some d → d.label = some l → i = c.index)
  | byNumber (hnone : ∀ d ∈ r.clauses, d.label ≠ some l)
      (hnumber : Numeral.IsIndex l c.index) (hplace : r.clauses[c.index]? = some c.clause)

theorem getElem?_clausesAt (r : Rule) (i : Nat) :
    r.clausesAt[i]? = r.clauses[i]?.map fun c => ⟨i, c⟩ := by
  rw [clausesAt, List.getElem?_map, List.getElem?_zipIdx, Option.map_map]
  simp only [Nat.zero_add]
  rfl

/-- The clause in the place that a label is the number of. -/
theorem clauseAtIndex?_eq_some_iff {c : ClauseAt} :
    r.clauseAtIndex? l = some c ↔
      Numeral.IsIndex l c.index ∧ r.clauses[c.index]? = some c.clause := by
  simp only [clauseAtIndex?, Option.bind_eq_some_iff, getElem?_clausesAt, Option.map_eq_some_iff,
    Numeral.index?_eq_some_iff]
  constructor
  · rintro ⟨i, hnumber, d, hplace, rfl⟩
    exact ⟨hnumber, hplace⟩
  · rintro ⟨hnumber, hplace⟩
    exact ⟨c.index, hnumber, c.clause, hplace, rfl⟩

/-- One clause alone has a label just if all others have another one. -/
theorem labelled_eq_singleton_iff {c : ClauseAt} :
    r.labelled l = [c] ↔ r.clauses[c.index]? = some c.clause ∧ c.clause.label = some l ∧
      ∀ (i : Nat) d, r.clauses[i]? = some d → d.label = some l → i = c.index := by
  have hlabelled := r.listsLabelled_labelled l
  constructor
  · intro h
    rw [h] at hlabelled
    obtain ⟨hplace, hlabel⟩ := (hlabelled.mem_iff c).mp (List.mem_singleton_self c)
    refine ⟨hplace, hlabel, ?_⟩
    intro i d hd hdlabel
    have hmem := (hlabelled.mem_iff ⟨i, d⟩).mpr ⟨hd, hdlabel⟩
    rw [← List.mem_singleton.mp hmem]
  · rintro ⟨hplace, hlabel, hsole⟩
    have hmem : c ∈ r.labelled l := (hlabelled.mem_iff c).mpr ⟨hplace, hlabel⟩
    have hindex : ∀ d ∈ r.labelled l, d.index = c.index := by
      intro d hd
      obtain ⟨hdplace, hdlabel⟩ := (hlabelled.mem_iff d).mp hd
      exact hsole d.index d.clause hdplace hdlabel
    have hascending := hlabelled.ascending
    -- Two clauses with the label would stand in different places.
    rcases hcs : r.labelled l with _ | ⟨d, _ | ⟨e, cs⟩⟩
    · simp [hcs] at hmem
    · rw [hcs, List.mem_singleton] at hmem
      rw [hmem]
    · rw [hcs] at hindex hascending
      have hlt := (List.pairwise_cons.mp hascending).1 e List.mem_cons_self
      have hd := hindex d List.mem_cons_self
      have he := hindex e (List.mem_cons_of_mem d List.mem_cons_self)
      omega

/-- A label is resolved to the clause that it names. -/
theorem resolve_eq_ok_iff {c : ClauseAt} : r.resolve l = .ok c ↔ r.Names l c := by
  constructor
  · intro h
    rw [resolve] at h
    rcases hcs : r.labelled l with _ | ⟨d, _ | ⟨d', cs⟩⟩
    · rw [hcs] at h
      cases hplace : r.clauseAtIndex? l with
      | none => simp [hplace] at h
      | some d =>
        simp only [hplace, Except.ok.injEq] at h
        obtain ⟨hnumber, hd⟩ := clauseAtIndex?_eq_some_iff.mp hplace
        refine h ▸ .byNumber ?_ hnumber hd
        intro e he hlabel
        exact labelled_ne_nil_iff.mpr ⟨e, he, hlabel⟩ hcs
    · simp only [hcs, Except.ok.injEq] at h
      obtain ⟨hd, hlabel, hsole⟩ := labelled_eq_singleton_iff.mp hcs
      exact h ▸ .byLabel hd hlabel hsole
    · simp [hcs] at h
  · intro h
    cases h with
    | byLabel hplace hlabel hsole =>
      rw [resolve, labelled_eq_singleton_iff.mpr ⟨hplace, hlabel, hsole⟩]
    | byNumber hnone hnumber hplace =>
      have hcs : r.labelled l = [] := by
        by_contra hne
        obtain ⟨d, hd, hlabel⟩ := labelled_ne_nil_iff.mp hne
        exact hnone d hd hlabel
      rw [resolve, hcs]
      simp only [clauseAtIndex?_eq_some_iff.mpr ⟨hnumber, hplace⟩]

end RuleMatching.Rule
