import RuleMatching.Proofs.State.Navigation
import RuleMatching.State.Reduction

/-!
Precedence among extensions.  Readers and reducers are asked in order, and each passes a question on to
the next by having no answer.  So one that comes behind others is asked only where all of them pass: a
path goes on leading where it led, `State.follow_append_readers`, and a state that is brought down by
itself or by one of the first reducers stays as it was, `State.reduce_append_of_handled`.
-/

set_option autoImplicit false
set_option relaxedAutoImplicit false

namespace RuleMatching.State

/-! ### Property readers -/

section Readers

variable {readers : List PropertyReader} {s t : State} {name segment : String}
  {segments : List String}

theorem FirstAnswer.append (h : FirstAnswer readers s name t) (later : List PropertyReader) :
    FirstAnswer (readers ++ later) s name t := by
  obtain ⟨before, e, after, rfl, hbefore, he⟩ := h
  exact ⟨before, e, after ++ later, by simp, hbefore, he⟩

theorem Hop.append (h : Hop readers s segment t) (later : List PropertyReader) :
    Hop (readers ++ later) s segment t := by
  cases h with
  | held hholds => exact .held hholds
  | read hopen hlacks hfirst => exact .read hopen hlacks (hfirst.append later)

/-- Segments lead where they led before there were further readers. -/
theorem Leads.append (h : Leads readers segments s t) (later : List PropertyReader) :
    Leads (readers ++ later) segments s t := by
  induction h with
  | here => exact .here
  | hop hfirst _ ih => exact .hop (hfirst.append later) ih

theorem follow_eq_some_iff {path : String} : s.follow readers path = .value (some t) ↔
    Leads readers (State.segments path) s t ∧ t.isNull = false := by
  rw [follow, Outcome.andThen_eq_value_iff, ← walk_eq_some_iff]
  constructor
  · rintro ⟨found, hwalk, h⟩
    obtain ⟨rfl, hnull⟩ := Option.filter_eq_some_iff.mp (Outcome.value.inj h)
    exact ⟨hwalk, by simpa using hnull⟩
  · rintro ⟨hwalk, hnull⟩
    exact ⟨some t, hwalk, by simp [hnull]⟩

/-- What stands at a path still stands there when further readers come behind the others. -/
theorem follow_append_readers {path : String} (h : s.follow readers path = .value (some t))
    (later : List PropertyReader) : s.follow (readers ++ later) path = .value (some t) := by
  obtain ⟨hleads, hnull⟩ := follow_eq_some_iff.mp h
  exact follow_eq_some_iff.mpr ⟨hleads.append later, hnull⟩

end Readers

/-! ### Reducers -/

section Reducers

variable {reducers later : List Reducer} {s : State} {x : Reduction}

/-- A state has a form of its own, or there is a reducer that does not pass it on. -/
def Handled (reducers : List Reducer) (s : State) : Prop :=
  s.ownForm?.isSome = true ∨ ∃ e ∈ reducers, e s ≠ .value none

/-- A reducer brings a state down, and all reducers before it pass it on. -/
def FirstForm (reducers : List Reducer) (s : State) (x : Reduction) : Prop :=
  ∃ before e after, reducers = before ++ e :: after ∧ (∀ e' ∈ before, e' s = .value none) ∧
    e s = .value (some x)

theorem reduce_of_ownForm? (h : s.ownForm? = some x) (reducers : List Reducer) :
    s.reduce reducers = .value x := by
  rw [reduce, h]

theorem not_handled_iff : ¬s.Handled reducers ↔
    s.ownForm? = none ∧ ∀ e ∈ reducers, e s = .value none := by
  simp [Handled]

theorem reduceBy_append_of_not_all (h : ∃ e ∈ reducers, e s ≠ .value none) (later : List Reducer) :
    s.reduceBy (reducers ++ later) = s.reduceBy reducers := by
  induction reducers with
  | nil => simp at h
  | cons e es ih =>
    rw [List.cons_append, reduceBy, reduceBy]
    cases hanswer : e s with
    | fault => rfl
    | value answer =>
      cases answer with
      | some x => rfl
      | none => exact ih (by simpa [hanswer] using h)

theorem reduceBy_append_of_all (h : ∀ e ∈ reducers, e s = .value none) (later : List Reducer) :
    s.reduceBy (reducers ++ later) = s.reduceBy later := by
  induction reducers with
  | nil => rfl
  | cons e es ih =>
    obtain ⟨he, hes⟩ := List.forall_mem_cons.mp h
    rw [List.cons_append, reduceBy, he, Outcome.andThen_value]
    exact ih hes

/-- Reducers that come behind are not asked for a state that is handled. -/
theorem reduce_append_of_handled (h : s.Handled reducers) (later : List Reducer) :
    s.reduce (reducers ++ later) = s.reduce reducers := by
  cases hown : s.ownForm? with
  | some x => rw [reduce_of_ownForm? hown, reduce_of_ownForm? hown]
  | none =>
    have hsome : ∃ e ∈ reducers, e s ≠ .value none := by simpa [Handled, hown] using h
    rw [reduce, reduce, hown]
    exact reduceBy_append_of_not_all hsome later

/-- A state that is not handled is left to the reducers that come behind. -/
theorem reduce_append_of_not_handled (h : ¬s.Handled reducers) (later : List Reducer) :
    s.reduce (reducers ++ later) = s.reduceBy later := by
  obtain ⟨hown, hall⟩ := not_handled_iff.mp h
  rw [reduce, hown]
  exact reduceBy_append_of_all hall later

theorem firstForm_cons_iff {e : Reducer} : FirstForm (e :: reducers) s x ↔
    e s = .value (some x) ∨ e s = .value none ∧ FirstForm reducers s x := by
  constructor
  · rintro ⟨before, e', after, hsplit, hbefore, he'⟩
    cases before with
    | nil =>
      obtain ⟨rfl, rfl⟩ := List.cons.inj hsplit
      exact .inl he'
    | cons b before =>
      obtain ⟨rfl, rfl⟩ := List.cons.inj hsplit
      obtain ⟨he, hbefore⟩ := List.forall_mem_cons.mp hbefore
      exact .inr ⟨he, before, e', after, rfl, hbefore, he'⟩
  · rintro (he | ⟨he, before, e', after, rfl, hbefore, he'⟩)
    · exact ⟨[], e, reducers, rfl, by simp, he⟩
    · exact ⟨e :: before, e', after, rfl, List.forall_mem_cons.mpr ⟨he, hbefore⟩, he'⟩

/-- The first reducer that does not pass a state on decides, and the text of the state is the last
resort. -/
theorem reduceBy_eq_value_iff : s.reduceBy reducers = .value x ↔ FirstForm reducers s x ∨
    (∀ e ∈ reducers, e s = .value none) ∧ ∃ t, s.render = .value t ∧ x = .ofText t := by
  induction reducers with
  | nil =>
    rw [reduceBy, Outcome.andThen_eq_value_iff]
    simp [FirstForm, eq_comm]
  | cons e es ih =>
    rw [reduceBy, firstForm_cons_iff, List.forall_mem_cons]
    cases e s with
    | fault => simp
    | value answer =>
      cases answer with
      | some y => simp
      | none => simpa using ih

end Reducers

end RuleMatching.State
