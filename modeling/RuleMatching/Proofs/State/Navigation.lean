import RuleMatching.State.Path

/-!
Where a path leads.  Each state holds other states under segments in its own way, `State.Holds`.
What it does not hold is asked of the property readers, one after the other, and the first answer
counts; but lists, maps and lists of pairs are taken at their word, and the path ends there.  A path
leads through such hops, and comes to nothing just where a hop is missing or null is at the end:
`State.follow_iff_leads`.
-/

set_option autoImplicit false
set_option relaxedAutoImplicit false

namespace RuleMatching.State

/-- Lists, maps and lists of pairs. -/
def isContainer : State → Bool
  | list _ _ | map _ _ | pairs _ => true
  | _ => false

/-- What is found under a segment in a state itself. -/
inductive Holds : State → String → State → Prop where
  | item {size : Nat} {item : Nat → State} {segment : String} {i : Nat}
      (hread : Numeral.index? segment = some i) (hbound : i < size) :
      Holds (list size item) segment (item i)
  | entry {keys : NameSet} {entry : String → State} {key : String} (hkey : key ∈ keys) :
      Holds (map keys entry) key (entry key)
  | pair {entries : List (String × String)} {key value : String}
      (hfound : Text.lookup key entries = some value) : Holds (pairs entries) key (text value)
  | recordField {kind : String} {names : NameSet} {field : String → State} {name : String}
      (hname : name ∈ names) : Holds (record kind names field) name (field name)
  | foreignField {kind : Outcome String} {names : Outcome (List String)} {shown : Outcome String}
      {reading : String → FieldReading} {field : String → State} {name : String}
      (hpresent : reading name = .present) :
      Holds (foreign kind names shown reading field) name (field name)

/-- Nothing is found under a segment in a state itself, and looking for it does no harm. -/
def Lacks (segment : String) : State → Prop
  | foreign _ _ _ reading _ => reading segment = .absent
  | s => ∀ t, ¬ s.Holds segment t

/-- A reader answers, and all readers before it have no answer. -/
def FirstAnswer (readers : List PropertyReader) (s : State) (name : String) (t : State) : Prop :=
  ∃ before e after, readers = before ++ e :: after ∧
    (∀ e' ∈ before, e' s name = .value none) ∧ e s name = .value (some t)

section Readers

variable {readers : List PropertyReader} {s t : State} {name segment : String}

theorem readProperty_eq_some_iff :
    s.readProperty name readers = .value (some t) ↔ FirstAnswer readers s name t := by
  induction readers with
  | nil => simp [readProperty, FirstAnswer]
  | cons e es ih =>
    rw [readProperty]
    constructor
    · intro h
      obtain ⟨answer, hanswer, h⟩ := Outcome.andThen_eq_value_iff.mp h
      cases answer with
      | some t' =>
        obtain rfl : t' = t := by simpa using h
        exact ⟨[], e, es, rfl, by simp, hanswer⟩
      | none =>
        obtain ⟨before, e', after, rfl, hbefore, he'⟩ := ih.mp h
        exact ⟨e :: before, e', after, rfl, List.forall_mem_cons.mpr ⟨hanswer, hbefore⟩, he'⟩
    · rintro ⟨before, e', after, hsplit, hbefore, he'⟩
      cases before with
      | nil =>
        obtain ⟨rfl, rfl⟩ := List.cons.inj hsplit
        rw [he', Outcome.andThen_value]
      | cons b before =>
        obtain ⟨rfl, rfl⟩ := List.cons.inj hsplit
        obtain ⟨he, hbefore⟩ := List.forall_mem_cons.mp hbefore
        rw [he, Outcome.andThen_value]
        exact ih.mpr ⟨before, e', after, rfl, hbefore, he'⟩

theorem readProperty_eq_none_iff :
    s.readProperty name readers = .value none ↔ ∀ e ∈ readers, e s name = .value none := by
  induction readers with
  | nil => simp [readProperty]
  | cons e es ih =>
    rw [readProperty, Outcome.andThen_eq_value_iff, List.forall_mem_cons]
    constructor
    · rintro ⟨answer, hanswer, h⟩
      cases answer with
      | some t => simp at h
      | none => exact ⟨hanswer, ih.mp h⟩
    · rintro ⟨he, hes⟩
      exact ⟨none, he, ih.mpr hes⟩

/-! ### A single hop -/

theorem step_of_holds (h : s.Holds segment t) : s.step readers segment = .value (some t) := by
  cases h with
  | item hread hbound =>
    rw [step, hread, Option.filter_some, if_pos (by simpa using hbound)]
    rfl
  | entry hkey => simp [step, hkey]
  | pair hfound => simp [step, hfound]
  | recordField hname => simp [step, recordField?, hname]
  | foreignField hpresent => simp [step, foreignField?, hpresent]

theorem step_of_lacks (h : s.Lacks segment) :
    s.step readers segment =
      if s.isContainer then .value none else s.readProperty segment readers := by
  cases s with
  | list size item =>
    have hnone : (Numeral.index? segment).filter (· < size) = none := by
      rw [Option.filter_eq_none_iff]
      intro i hi hbound
      exact h (item i) (.item hi (by simpa using hbound))
    simp [step, hnone, isContainer]
  | map keys entry =>
    have hkey : segment ∉ keys := fun hkey => h _ (.entry hkey)
    simp [step, hkey, isContainer]
  | pairs entries =>
    have hnone : Text.lookup segment entries = none :=
      Option.eq_none_iff_forall_not_mem.mpr fun _ hfound => h _ (.pair hfound)
    simp [step, hnone, isContainer]
  | record kind names field =>
    have hname : segment ∉ names := fun hname => h _ (.recordField hname)
    simp [step, recordField?, hname, isContainer]
  | foreign kind names shown reading field =>
    have habsent : reading segment = .absent := h
    simp [step, foreignField?, habsent, isContainer]
  | _ => rfl

/-- Only looking into a foreign object can do harm. -/
theorem holds_or_lacks_or_faults (s : State) (segment : String) :
    (∃ t, s.Holds segment t) ∨ s.Lacks segment ∨
      ∀ readers, s.step readers segment = .fault := by
  by_cases hholds : ∃ t, s.Holds segment t
  · exact .inl hholds
  · refine .inr ?_
    cases s with
    | foreign kind names shown reading field =>
      cases hreading : reading segment with
      | present => exact absurd ⟨_, .foreignField hreading⟩ hholds
      | absent => exact .inl hreading
      | fault => exact .inr fun readers => by simp [step, foreignField?, hreading]
    | _ => exact .inl (not_exists.mp hholds)

/-- How one segment leads from a state to the next one. -/
inductive Hop (readers : List PropertyReader) (s : State) (segment : String) : State → Prop where
  | held {t : State} (h : s.Holds segment t) : Hop readers s segment t
  | read {t : State} (hopen : s.isContainer = false) (hlacks : s.Lacks segment)
      (hfirst : FirstAnswer readers s segment t) : Hop readers s segment t

/-- No segment leads on: the state lacks it, and it is a container or no reader has an answer. -/
def DeadEnd (readers : List PropertyReader) (s : State) (segment : String) : Prop :=
  s.Lacks segment ∧ (s.isContainer = true ∨ ∀ e ∈ readers, e s segment = .value none)

theorem step_eq_some_iff :
    s.step readers segment = .value (some t) ↔ Hop readers s segment t := by
  constructor
  · intro h
    rcases holds_or_lacks_or_faults s segment with ⟨t', hholds⟩ | hlacks | hfault
    · rw [step_of_holds hholds] at h
      obtain rfl : t' = t := by simpa using h
      exact .held hholds
    · rw [step_of_lacks hlacks] at h
      cases hopen : s.isContainer with
      | true => simp [hopen] at h
      | false => exact .read hopen hlacks (readProperty_eq_some_iff.mp (by simpa [hopen] using h))
    · simp [hfault] at h
  · intro h
    cases h with
    | held hholds => exact step_of_holds hholds
    | read hopen hlacks hfirst =>
      rw [step_of_lacks hlacks, hopen]
      exact readProperty_eq_some_iff.mpr hfirst

theorem step_eq_none_iff : s.step readers segment = .value none ↔ DeadEnd readers s segment := by
  constructor
  · intro h
    rcases holds_or_lacks_or_faults s segment with ⟨t, hholds⟩ | hlacks | hfault
    · simp [step_of_holds hholds] at h
    · rw [step_of_lacks hlacks] at h
      refine ⟨hlacks, ?_⟩
      cases hopen : s.isContainer with
      | true => exact .inl rfl
      | false => exact .inr (readProperty_eq_none_iff.mp (by simpa [hopen] using h))
    · simp [hfault] at h
  · rintro ⟨hlacks, hend⟩
    rw [step_of_lacks hlacks]
    rcases hend with hcontainer | hreaders
    · rw [if_pos hcontainer]
    · rw [readProperty_eq_none_iff.mpr hreaders, ite_self]

/-! ### A whole path -/

/-- Where segments lead from a state, hop by hop. -/
inductive Leads (readers : List PropertyReader) : List String → State → State → Prop where
  | here {s : State} : Leads readers [] s s
  | hop {segment : String} {segments : List String} {s t u : State}
      (hfirst : Hop readers s segment t) (hrest : Leads readers segments t u) :
      Leads readers (segment :: segments) s u

variable {segments : List String}

theorem walk_eq_some_iff :
    walk readers segments s = .value (some t) ↔ Leads readers segments s t := by
  induction segments generalizing s with
  | nil =>
    constructor
    · intro h
      obtain rfl : s = t := by simpa [walk] using h
      exact .here
    · intro h
      cases h
      rfl
  | cons p ps ih =>
    rw [walk, Outcome.andThen_eq_value_iff]
    constructor
    · rintro ⟨next, hnext, h⟩
      cases next with
      | some u => exact .hop (step_eq_some_iff.mp hnext) (ih.mp h)
      | none => simp at h
    · intro h
      cases h with
      | hop hfirst hrest => exact ⟨_, step_eq_some_iff.mpr hfirst, ih.mpr hrest⟩

theorem walk_eq_none_iff :
    walk readers segments s = .value none ↔
      ∃ before p after t, segments = before ++ p :: after ∧ Leads readers before s t ∧
        DeadEnd readers t p := by
  induction segments generalizing s with
  | nil => simp [walk]
  | cons p ps ih =>
    rw [walk, Outcome.andThen_eq_value_iff]
    constructor
    · rintro ⟨next, hnext, h⟩
      cases next with
      | some u =>
        obtain ⟨before, q, after, t, rfl, hleads, hend⟩ := ih.mp h
        exact ⟨p :: before, q, after, t, rfl, .hop (step_eq_some_iff.mp hnext) hleads, hend⟩
      | none => exact ⟨[], p, ps, s, rfl, .here, step_eq_none_iff.mp hnext⟩
    · rintro ⟨before, q, after, t, hsplit, hleads, hend⟩
      cases hleads with
      | here =>
        obtain ⟨rfl, rfl⟩ := List.cons.inj hsplit
        exact ⟨none, step_eq_none_iff.mpr hend, rfl⟩
      | hop hfirst hrest =>
        obtain ⟨rfl, rfl⟩ := List.cons.inj hsplit
        exact ⟨_, step_eq_some_iff.mpr hfirst, ih.mpr ⟨_, q, after, t, rfl, hrest, hend⟩⟩

end Readers

/-- Something stands at a path just if the segments lead to it and it is not null.  Nothing stands
there just if they lead to null, or lead to some state where the next segment is a dead end. -/
theorem follow_iff_leads (readers : List PropertyReader) (path : String) (s : State) :
    (∀ t, s.follow readers path = .value (some t) ↔
      Leads readers (segments path) s t ∧ t.isNull = false) ∧
    (s.follow readers path = .value none ↔
      (∃ t, Leads readers (segments path) s t ∧ t.isNull = true) ∨
      ∃ before p after t, segments path = before ++ p :: after ∧ Leads readers before s t ∧
        DeadEnd readers t p) := by
  refine ⟨fun t => ?_, ?_⟩
  · rw [follow, Outcome.andThen_eq_value_iff, ← walk_eq_some_iff]
    constructor
    · rintro ⟨found, hwalk, h⟩
      obtain ⟨rfl, hnull⟩ := Option.filter_eq_some_iff.mp (Outcome.value.inj h)
      exact ⟨hwalk, by simpa using hnull⟩
    · rintro ⟨hwalk, hnull⟩
      exact ⟨some t, hwalk, by simp [hnull]⟩
  · rw [follow, Outcome.andThen_eq_value_iff, ← walk_eq_none_iff]
    simp only [← walk_eq_some_iff]
    constructor
    · rintro ⟨found, hwalk, h⟩
      cases found with
      | none => exact .inr hwalk
      | some t => exact .inl ⟨t, hwalk, by simpa [Option.filter] using h⟩
    · rintro (⟨t, hwalk, hnull⟩ | hwalk)
      · exact ⟨some t, hwalk, by simp [hnull]⟩
      · exact ⟨none, hwalk, rfl⟩

/-- Gives the type of a state as its property `kind`. -/
private def kindReader : PropertyReader := fun s name =>
  if name = "kind" then s.kind.andThen fun k => .value (some (text k)) else .value none

/-- A map that lacks a segment is a dead end, although a reader has an answer for it. -/
theorem follow_passes_over_reader :
    (ofEntries []).Lacks "kind" ∧ kindReader (ofEntries []) "kind" = .value (some (text "Map")) ∧
      (ofEntries []).follow [kindReader] "kind" = .value none := by
  refine ⟨?_, rfl, rfl⟩
  intro t h
  cases h with
  | entry hkey => simp at hkey

end RuleMatching.State
