import RuleMatching.Proofs.State.Comparison

/-!
Whether two states differ.  A comparison that is asked for one difference at least finds one just if
there are events, so its limit plays no part: `eq_nil_iff_of_firstDifferences`.  Nor does the order of
the two states: `events_eq_nil_symm`.
-/

set_option autoImplicit false
set_option relaxedAutoImplicit false

namespace RuleMatching

theorem Binary64.equals_comm (x y : Binary64) : x.equals y = y.equals x := by
  simp only [equals, Bool.and_comm, Bool.beq_comm (a := x.bits)]

theorem FlagSet.same_comm (f g : FlagSet) : f.same g = g.same f := by
  simp only [same, Bool.beq_comm (a := f.bits), Bool.beq_comm (a := f.kind)]

namespace State

variable {s t : State} {path : String}

/-! ### The limit -/

/-- A comparison that is asked for a difference finds one just if there is an event. -/
theorem eq_nil_iff_of_firstDifferences {limit : Nat} (hlimit : 0 < limit)
    {es : List (Outcome Difference)} {ds : List Difference}
    (h : firstDifferences limit es = .value ds) : ds = [] ↔ es = [] := by
  have htake := take_eq_of_firstDifferences h
  obtain ⟨n, rfl⟩ := Nat.exists_eq_add_one.mpr hlimit
  cases es with
  | nil => simpa using htake
  | cons e es =>
    rw [List.take_succ_cons] at htake
    cases ds with
    | nil => simp at htake
    | cons d ds => simp

/-- A comparison that has a result has one when it is asked for just one difference. -/
theorem exists_firstDifferences_one {limit : Nat} (hlimit : 0 < limit)
    {es : List (Outcome Difference)} {ds : List Difference}
    (h : firstDifferences limit es = .value ds) : ∃ ds', firstDifferences 1 es = .value ds' := by
  obtain ⟨n, rfl⟩ := Nat.exists_eq_add_one.mpr hlimit
  cases es with
  | nil => exact ⟨[], rfl⟩
  | cons e es =>
    obtain ⟨d, rfl, -⟩ := Outcome.andThen_eq_value_iff.mp h
    exact ⟨[d], rfl⟩

/-- Whether a comparison finds a difference does not depend on how many it is asked for, if it is
asked for any. -/
theorem isEmpty_differencesBetween_eq {before after : Option State} {limit limit' : Nat}
    (hlimit : 0 < limit) (hlimit' : 0 < limit') {ds ds' : List Difference}
    (h : differencesBetween before after limit = .value ds)
    (h' : differencesBetween before after limit' = .value ds') : ds.isEmpty = ds'.isEmpty := by
  rw [Bool.eq_iff_iff, List.isEmpty_iff, List.isEmpty_iff, eq_nil_iff_of_firstDifferences hlimit h,
    eq_nil_iff_of_firstDifferences hlimit' h']

/-- If more differences are asked for than one and a fault is met, then the one has been found. -/
theorem ne_nil_of_differencesBetween_eq_fault {before after : Option State} {limit : Nat}
    {ds : List Difference} (hone : differencesBetween before after 1 = .value ds)
    (hfault : differencesBetween before after limit = .fault) : ds ≠ [] := by
  intro hnil
  have hevents := (eq_nil_iff_of_firstDifferences (by decide) hone).mp hnil
  rw [differencesBetween, compare, hevents] at hfault
  cases limit <;> simp [firstDifferences] at hfault

/-! ### The order of the states -/

theorem sameScalar_comm (s t : State) : sameScalar s t = sameScalar t s := by
  cases s <;> cases t <;>
    simp only [sameScalar, Bool.beq_comm, Binary64.equals_comm, FlagSet.same_comm]

theorem sides_eq_nil_iff {c d : Prop} [Decidable c] [Decidable d] {α : Type} {es : List α}
    {x y : α} : (if c then if d then es else [x] else [y]) = [] ↔ c ∧ d ∧ es = [] := by
  by_cases hc : c
  · by_cases hd : d <;> simp [hc, hd]
  · simp [hc]

theorem pairEvents_eq_nil_iff {xs ys : List (String × String)} :
    pairEvents path xs ys = [] ↔ xs = ys := by
  induction xs generalizing ys with
  | nil => cases ys <;> simp [pairEvents]
  | cons x xs ih =>
    cases ys with
    | nil => simp [pairEvents]
    | cons y ys =>
      rw [pairEvents]
      by_cases hxy : x = y
      · rw [if_pos hxy, ih]
        simp [hxy]
      · simp [hxy]

/-- Fields have no events just if both objects can be asked for each of them and agree in it. -/
theorem fieldEvents_eq_nil_iff {a b : String → Outcome (Option State)}
    {visit : String → Option State → State → List (Outcome Difference)} {names : List String} :
    fieldEvents a b visit names = [] ↔ ∀ n ∈ names, ∃ x y, a n = .value x ∧ b n = .value y ∧
      visit n x (y.getD null) = [] := by
  rw [fieldEvents, List.flatMap_eq_nil_iff]
  refine forall₂_congr fun n _ => ?_
  cases a n <;> cases b n <;> simp

theorem names_ofList_eq_nil_iff {names : List String} :
    (NameSet.ofList names).names = [] ↔ names = [] := by
  simp only [List.eq_nil_iff_forall_not_mem, NameSet.mem_names, NameSet.mem_ofList]

/-- Two objects are of one kind, and their fields agree in the sense of `same`, each that one of them
names, or their texts do if they name none. -/
def ObjectView.Agree (a b : ObjectView) (same : String → Option State → Option State → Prop) :
    Prop :=
  ∃ k ns ms, a.kind = .value k ∧ b.kind = .value k ∧ a.names = .value ns ∧ b.names = .value ms ∧
    (ns ++ ms = [] → ∃ shown, a.text = .value shown ∧ b.text = .value shown) ∧
    ∀ n ∈ ns ++ ms, ∃ x y, a.field? n = .value x ∧ b.field? n = .value y ∧ same n x y

variable {a b : ObjectView} {same same' : String → Option State → Option State → Prop}

theorem ObjectView.Agree.imp (h : a.Agree b same)
    (himp : ∀ n x y, a.field? n = .value x → b.field? n = .value y → same n x y → same' n x y) :
    a.Agree b same' := by
  obtain ⟨k, ns, ms, hk, hl, hns, hms, htext, hfields⟩ := h
  refine ⟨k, ns, ms, hk, hl, hns, hms, htext, ?_⟩
  intro n hn
  obtain ⟨x, y, hx, hy, hsame⟩ := hfields n hn
  exact ⟨x, y, hx, hy, himp n x y hx hy hsame⟩

theorem ObjectView.Agree.symm (h : a.Agree b same) : b.Agree a fun n y x => same n x y := by
  obtain ⟨k, ns, ms, hk, hl, hns, hms, htext, hfields⟩ := h
  refine ⟨k, ms, ns, hl, hk, hms, hns, ?_, ?_⟩
  · intro hnil
    obtain ⟨shown, hshown, hshown'⟩ := htext (List.append_eq_nil_iff.mpr
      (List.append_eq_nil_iff.mp hnil).symm)
    exact ⟨shown, hshown', hshown⟩
  · intro n hn
    obtain ⟨x, y, hx, hy, hsame⟩ := hfields n (List.mem_append.mpr (List.mem_append.mp hn).symm)
    exact ⟨y, x, hy, hx, hsame⟩

/-- Two objects have no events just if they agree. -/
theorem objectEvents_eq_nil_iff
    {visit : String → Option State → State → List (Outcome Difference)} :
    objectEvents path s t a b visit = [] ↔
      a.Agree b fun n x y => visit n x (y.getD null) = [] := by
  constructor
  · intro h
    rw [objectEvents] at h
    split at h
    · rename_i k l hk hl
      split at h
      · rename_i hkind
        subst hkind
        split at h
        · rename_i ns ms hns hms
          refine ⟨k, ns, ms, hk, hl, hns, hms, ?_⟩
          split at h
          · rename_i hnone
            have hnil := names_ofList_eq_nil_iff.mp hnone
            refine ⟨fun _ => ?_, by simp [hnil]⟩
            split at h
            · rename_i shown shown' hshown hshown'
              split at h
              · rename_i htext
                subst htext
                exact ⟨shown, hshown, hshown'⟩
              · simp at h
            · simp at h
          · rename_i names hsome
            refine ⟨fun hnil => absurd (names_ofList_eq_nil_iff.mpr hnil) hsome, ?_⟩
            intro n hn
            exact fieldEvents_eq_nil_iff.mp h n (NameSet.mem_ofList.mpr hn)
        · simp at h
      · simp at h
    · simp at h
  · rintro ⟨k, ns, ms, hk, hl, hns, hms, htext, hfields⟩
    simp only [objectEvents, hk, hl, hns, hms, if_true]
    split
    · rename_i hnone
      obtain ⟨shown, hshown, hshown'⟩ := htext (names_ofList_eq_nil_iff.mp hnone)
      simp only [hshown, hshown', if_true]
    · refine fieldEvents_eq_nil_iff.mpr fun n hn => hfields n ?_
      exact NameSet.mem_ofList.mp hn

/-- Two objects have no events just if they agree, where a field that one of them does not have counts
as null. -/
theorem events_eq_nil_iff_of_object? (ha : s.object? = some a) (hb : t.object? = some b) :
    s.events path t = [] ↔
      a.Agree b fun n x y => (x.getD null).events (childPath path n) (y.getD null) = [] := by
  rw [events_of_object? path ha hb]
  exact objectEvents_eq_nil_iff

theorem eq_null_of_events_null (h : null.events path t = []) : t = null := by
  rw [events_null, nullEvents] at h
  cases t <;> simp_all [isNull]

theorem events_eq_nil_of_sameScalar (h : sameScalar s t = true) : s.events path t = [] := by
  cases s <;> cases t <;> simp_all [events, sameScalar]

/-- Objects without events have none the other way round, if that is so for their fields. -/
theorem events_symm_of_object? {path' : String} (ha : s.object? = some a)
    (hfield : ∀ n x, a.field? n = .value (some x) → ∀ (y : State) (path path' : String),
      x.events path y = [] → y.events path' x = [])
    (h : s.events path t = []) : t.events path' s = [] := by
  cases hb : t.object? with
  | none => cases s <;> simp_all [events, object?]
  | some b =>
    have hagree := (events_eq_nil_iff_of_object? ha hb).mp h
    refine (events_eq_nil_iff_of_object? hb ha).mpr (hagree.symm.imp ?_)
    intro n y x _ hx hsame
    cases x with
    | none =>
      rw [Option.getD_none] at hsame ⊢
      rw [eq_null_of_events_null hsame]
      rfl
    | some x => exact hfield n x hx _ _ _ hsame

/-- If there is no event when two states are walked together, then there is none the other way
round. -/
theorem events_eq_nil_symm {path' : String} (h : s.events path t = []) :
    t.events path' s = [] := by
  induction s generalizing t path path' with
  | list m a ih =>
    cases t with
    | list n b =>
      simp only [events, List.flatMap_eq_nil_iff, List.mem_range, sides_eq_nil_iff] at h ⊢
      intro i hi
      obtain ⟨hm, hn, hboth⟩ := h i (by omega)
      exact ⟨hn, hm, ih i hboth⟩
    | _ => simp [events, sameScalar] at h
  | map ks a ih =>
    cases t with
    | map ls b =>
      simp only [events, List.flatMap_eq_nil_iff, NameSet.mem_names, NameSet.mem_union,
        sides_eq_nil_iff] at h ⊢
      intro k hk
      obtain ⟨hks, hls, hboth⟩ := h k hk.symm
      exact ⟨hls, hks, ih k hboth⟩
    | _ => simp [events, sameScalar] at h
  | pairs xs =>
    cases t with
    | pairs ys =>
      simp only [events, pairEvents_eq_nil_iff] at h ⊢
      exact h.symm
    | _ => simp [events, sameScalar] at h
  | record k ns f ih =>
    refine events_symm_of_object? rfl ?_ h
    intro n x hx y _ _ hxy
    obtain ⟨-, rfl⟩ := mem_recordField?_iff.mp (Outcome.value.inj hx)
    exact ih n hxy
  | foreign k ns shown r f ih =>
    refine events_symm_of_object? rfl ?_ h
    intro n x hx y _ _ hxy
    obtain rfl := eq_of_foreignField? hx x rfl
    exact ih n hxy
  | _ =>
    refine events_eq_nil_of_sameScalar ?_
    rw [sameScalar_comm]
    simpa [events] using h

/-- Whether a comparison finds a difference depends neither on how many it is asked for, if it is
asked for any, nor on the order of the states. -/
theorem isEmpty_differencesBetween_comm {before after : Option State} {limit limit' : Nat}
    (hlimit : 0 < limit) (hlimit' : 0 < limit') {ds ds' : List Difference}
    (h : differencesBetween before after limit = .value ds)
    (h' : differencesBetween after before limit' = .value ds') : ds.isEmpty = ds'.isEmpty := by
  rw [Bool.eq_iff_iff, List.isEmpty_iff, List.isEmpty_iff, eq_nil_iff_of_firstDifferences hlimit h,
    eq_nil_iff_of_firstDifferences hlimit' h']
  exact ⟨events_eq_nil_symm, events_eq_nil_symm⟩

end State

end RuleMatching
