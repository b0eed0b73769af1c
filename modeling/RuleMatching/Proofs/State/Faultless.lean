import RuleMatching.Extension
import RuleMatching.State.Difference

/-!
States and extensions in which nothing faults.  A state is faultless if no method of an object in it
faults, however deep the object lies.  Rendering such a state, reducing it, following a path in it and
comparing it with another come to a value, as long as the extensions asked on the way fault on no such
state: `exists_render`, `exists_reduce`, `exists_follow` and `exists_differencesBetween`.
-/

set_option autoImplicit false
set_option relaxedAutoImplicit false

namespace RuleMatching

/-- If a computation comes to a value, and goes on with it to another, it comes to that one. -/
theorem Outcome.exists_andThen {α β : Type} {o : Outcome α} {f : α → Outcome β} {p : α → Prop}
    {q : β → Prop} (ho : ∃ a, o = value a ∧ p a) (hf : ∀ a, p a → ∃ b, f a = value b ∧ q b) :
    ∃ b, o.andThen f = value b ∧ q b := by
  obtain ⟨a, rfl, ha⟩ := ho
  exact hf a ha

namespace State

/-- No method of an object in a state faults, as far down as the state can be read. -/
def Faultless : State → Prop
  | list size item => ∀ i, i < size → (item i).Faultless
  | map keys entry => ∀ k, k ∈ keys → (entry k).Faultless
  | record _ names field => ∀ n, n ∈ names → (field n).Faultless
  | foreign kind names shown reading field =>
      (∃ k, kind = .value k) ∧ (∃ ns, names = .value ns) ∧ (∃ t, shown = .value t) ∧
        ∀ n, reading n ≠ .fault ∧ (reading n = .present → (field n).Faultless)
  | _ => True

variable {s t : State}

theorem exists_render (hs : s.Faultless) : ∃ text, s.render = .value text := by
  induction s with
  | list size item ih =>
    obtain ⟨ts, hts⟩ := Outcome.exists_forEach_eq_value fun i hi =>
      ih i (hs i (List.mem_range.mp hi))
    exact ⟨_, by rw [render, hts, Outcome.andThen_value]⟩
  | map keys entry ih =>
    have hentry : ∀ k ∈ keys.names, ∃ text, ((entry k).render.andThen fun t =>
        .value (entryText k t)) = .value text := by
      intro k hk
      obtain ⟨t, ht⟩ := ih k (hs k hk)
      exact ⟨_, by rw [ht, Outcome.andThen_value]⟩
    obtain ⟨ts, hts⟩ := Outcome.exists_forEach_eq_value hentry
    exact ⟨_, by rw [render, hts, Outcome.andThen_value]⟩
  | record kind names field ih =>
    have hfield : ∀ n ∈ names.names, ∃ text, ((field n).render.andThen fun t =>
        .value (entryText n t)) = .value text := by
      intro n hn
      obtain ⟨t, ht⟩ := ih n (hs n hn)
      exact ⟨_, by rw [ht, Outcome.andThen_value]⟩
    obtain ⟨ts, hts⟩ := Outcome.exists_forEach_eq_value hfield
    exact ⟨_, by rw [render, hts, Outcome.andThen_value]⟩
  | foreign kind names text reading field ih => exact hs.2.2.1
  | _ => exact ⟨_, rfl⟩

end State

/-- No extension that is asked about states faults on a faultless one, and the properties read from
one are faultless. -/
structure Registry.Faultless (r : Registry) : Prop where
  reduces : ∀ e ∈ r.reducers, ∀ s : State, s.Faultless → ∃ x, e s = .value x
  reads : ∀ e ∈ r.propertyReaders, ∀ s : State, s.Faultless → ∀ name,
    ∃ v, e s name = .value v ∧ ∀ t ∈ v, t.Faultless

theorem Registry.faultless_empty : empty.Faultless := ⟨by simp [empty], by simp [empty]⟩

namespace State

variable {s t : State} {r : Registry}

/-- If a state has a text and no reducer faults on it, it can be brought down. -/
theorem exists_reduceBy {reducers : List Reducer} (htext : ∃ text, s.render = .value text)
    (heach : ∀ e ∈ reducers, ∃ x, e s = .value x) : ∃ x, s.reduceBy reducers = .value x := by
  induction reducers with
  | nil =>
    obtain ⟨text, htext⟩ := htext
    exact ⟨_, by rw [reduceBy, htext, Outcome.andThen_value]⟩
  | cons e es ih =>
    obtain ⟨x, hx⟩ := heach e List.mem_cons_self
    rw [reduceBy, hx, Outcome.andThen_value]
    cases x with
    | some x => exact ⟨x, rfl⟩
    | none => exact ih fun e' he' => heach e' (List.mem_cons_of_mem e he')

theorem exists_reduce (hr : r.Faultless) (hs : s.Faultless) :
    ∃ x, s.reduce r.reducers = .value x := by
  rw [reduce]
  cases s.ownForm? with
  | some x => exact ⟨x, rfl⟩
  | none => exact exists_reduceBy (exists_render hs) fun e he => hr.reduces e he s hs

/-! ### Following a path -/

theorem exists_readProperty (hr : r.Faultless) (hs : s.Faultless) (name : String) :
    ∃ v, s.readProperty name r.propertyReaders = .value v ∧ ∀ t ∈ v, t.Faultless := by
  have hby : ∀ readers : List PropertyReader,
      (∀ e ∈ readers, ∃ v, e s name = .value v ∧ ∀ t ∈ v, t.Faultless) →
      ∃ v, s.readProperty name readers = .value v ∧ ∀ t ∈ v, t.Faultless := by
    intro readers
    induction readers with
    | nil => exact fun _ => ⟨none, rfl, by simp⟩
    | cons e es ih =>
      intro heach
      rw [readProperty]
      refine Outcome.exists_andThen (heach e List.mem_cons_self) ?_
      intro v hv
      cases v with
      | some t => exact ⟨some t, rfl, hv⟩
      | none => exact ih fun e' he' => heach e' (List.mem_cons_of_mem e he')
  exact hby r.propertyReaders fun e he => hr.reads e he s hs name

theorem exists_foreignField {kind : Outcome String} {names : Outcome (List String)}
    {shown : Outcome String} {reading : String → FieldReading} {field : String → State}
    (hs : (foreign kind names shown reading field).Faultless) (n : String) :
    ∃ v, foreignField? reading field n = .value v ∧ ∀ t ∈ v, t.Faultless := by
  obtain ⟨hfault, hpresent⟩ := hs.2.2.2 n
  rw [foreignField?]
  cases hn : reading n with
  | present => exact ⟨_, rfl, by simpa using hpresent hn⟩
  | absent => exact ⟨_, rfl, by simp⟩
  | fault => exact absurd hn hfault

theorem eq_of_foreignField? {reading : String → FieldReading} {field : String → State} {n : String}
    {v : Option State} (h : foreignField? reading field n = .value v) : ∀ t ∈ v, t = field n := by
  rw [foreignField?] at h
  split at h
  · obtain rfl := Outcome.value.inj h
    exact fun t ht => (Option.some.inj ht).symm
  · obtain rfl := Outcome.value.inj h
    simp
  · simp at h

theorem mem_recordField?_iff {names : NameSet} {field : String → State} {n : String} {t : State} :
    t ∈ recordField? names field n ↔ n ∈ names ∧ t = field n := by
  rw [recordField?, Option.mem_def, Option.ite_none_right_eq_some, NameSet.contains_iff,
    Option.some.injEq, eq_comm (a := t)]

theorem faultless_of_recordField? {kind : String} {names : NameSet} {field : String → State}
    (hs : (record kind names field).Faultless) {n : String} :
    ∀ t ∈ recordField? names field n, t.Faultless := by
  intro t ht
  obtain ⟨hn, rfl⟩ := mem_recordField?_iff.mp ht
  exact hs n hn

theorem exists_step (hr : r.Faultless) (hs : s.Faultless) (segment : String) :
    ∃ v, s.step r.propertyReaders segment = .value v ∧ ∀ t ∈ v, t.Faultless := by
  have hread := exists_readProperty hr hs segment
  cases s with
  | list size item =>
    refine ⟨_, rfl, ?_⟩
    intro t ht
    obtain ⟨i, hi, rfl⟩ := Option.map_eq_some_iff.mp ht
    exact hs i (by simpa using (Option.filter_eq_some_iff.mp hi).2)
  | map keys entry =>
    refine ⟨_, rfl, ?_⟩
    intro t ht
    split at ht
    · rename_i hk
      obtain rfl := Option.some.inj ht
      exact hs segment (NameSet.contains_iff.mp hk)
    · simp at ht
  | pairs entries =>
    refine ⟨_, rfl, ?_⟩
    intro t ht
    obtain ⟨text, -, rfl⟩ := Option.map_eq_some_iff.mp ht
    trivial
  | record kind names field =>
    simp only [step]
    cases hfield : recordField? names field segment with
    | some v => exact ⟨some v, rfl, hfield ▸ faultless_of_recordField? hs⟩
    | none => exact hread
  | foreign kind names text reading field =>
    rw [step]
    refine Outcome.exists_andThen (exists_foreignField hs segment) ?_
    intro v hv
    cases v with
    | some t => exact ⟨some t, rfl, hv⟩
    | none => exact hread
  | _ => exact hread

theorem exists_walk (hr : r.Faultless) (segments : List String) (hs : s.Faultless) :
    ∃ v, walk r.propertyReaders segments s = .value v ∧ ∀ t ∈ v, t.Faultless := by
  induction segments generalizing s with
  | nil => exact ⟨some s, rfl, by simpa using hs⟩
  | cons p ps ih =>
    rw [walk]
    refine Outcome.exists_andThen (exists_step hr hs p) ?_
    intro v hv
    cases v with
    | some t => exact ih (hv t rfl)
    | none => exact ⟨none, rfl, by simp⟩

/-- What stands at a path in a faultless state is faultless, if anything stands there. -/
theorem exists_follow (hr : r.Faultless) (path : String) (hs : s.Faultless) :
    ∃ v, s.follow r.propertyReaders path = .value v ∧ ∀ t ∈ v, t.Faultless := by
  rw [follow]
  refine Outcome.exists_andThen (exists_walk hr (segments path) hs) ?_
  intro v hv
  refine ⟨_, rfl, ?_⟩
  intro t ht
  exact hv t (Option.filter_eq_some_iff.mp ht).1

/-! ### Comparing -/

theorem exists_differing {before after : Option State} (hbefore : ∀ s ∈ before, s.Faultless)
    (hafter : ∀ s ∈ after, s.Faultless) (path : String) :
    ∃ d, differing path before after = .value d := by
  have hside : ∀ o : Option State, (∀ s ∈ o, s.Faultless) → ∃ text, side o = .value text := by
    intro o ho
    cases o with
    | none => exact ⟨none, rfl⟩
    | some s =>
      rw [side]
      split
      · exact ⟨none, rfl⟩
      · obtain ⟨text, htext⟩ := exists_render (ho s rfl)
        exact ⟨some text, by rw [htext, Outcome.andThen_value]⟩
  obtain ⟨b, hb⟩ := hside before hbefore
  obtain ⟨a, ha⟩ := hside after hafter
  exact ⟨_, by rw [differing, hb, Outcome.andThen_value, ha, Outcome.andThen_value]⟩

/-- No method of an object seen through its view faults, and its fields are faultless. -/
structure ObjectView.Faultless (o : ObjectView) : Prop where
  kind : ∃ k, o.kind = .value k
  names : ∃ ns, o.names = .value ns
  text : ∃ t, o.text = .value t
  field : ∀ n, ∃ v, o.field? n = .value v ∧ ∀ t ∈ v, t.Faultless

theorem faultless_of_object? (hs : s.Faultless) {o : ObjectView} (ho : s.object? = some o) :
    o.Faultless := by
  cases s with
  | record kind names field =>
    obtain rfl := Option.some.inj ho
    exact ⟨⟨_, rfl⟩, ⟨_, rfl⟩, exists_render hs,
      fun n => ⟨_, rfl, faultless_of_recordField? hs⟩⟩
  | foreign kind names shown reading field =>
    obtain rfl := Option.some.inj ho
    exact ⟨hs.1, hs.2.1, hs.2.2.1, exists_foreignField hs⟩
  | _ => simp [object?] at ho

/-- No event is a fault. -/
def AllDifferences (es : List (Outcome Difference)) : Prop := ∀ e ∈ es, ∃ d, e = .value d

theorem allDifferences_nil : AllDifferences [] := by
  simp [AllDifferences]

theorem allDifferences_flatMap {α : Type} {f : α → List (Outcome Difference)} {as : List α}
    (h : ∀ a ∈ as, AllDifferences (f a)) : AllDifferences (as.flatMap f) := by
  intro e he
  obtain ⟨a, ha, he⟩ := List.mem_flatMap.mp he
  exact h a ha e he

theorem allDifferences_differing {before after : Option State}
    (hbefore : ∀ s ∈ before, s.Faultless) (hafter : ∀ s ∈ after, s.Faultless) (path : String) :
    AllDifferences [differing path before after] := by
  intro e he
  obtain rfl := List.mem_singleton.mp he
  exact exists_differing hbefore hafter path

theorem allDifferences_both (hs : s.Faultless) (ht : t.Faultless) (path : String) :
    AllDifferences [differing path (some s) (some t)] :=
  allDifferences_differing (by simpa using hs) (by simpa using ht) path

theorem allDifferences_nullEvents (hs : s.Faultless) (path : String) :
    AllDifferences (nullEvents path s) := by
  rw [nullEvents]
  split
  · exact allDifferences_nil
  · exact allDifferences_both (s := null) trivial hs path

theorem allDifferences_pairEvents (path : String) (xs ys : List (String × String)) :
    AllDifferences (pairEvents path xs ys) := by
  intro e he
  induction xs generalizing ys with
  | nil =>
    induction ys with
    | nil => simp [pairEvents] at he
    | cons y ys ih =>
      rw [pairEvents] at he
      rcases List.mem_cons.mp he with rfl | he
      · exact ⟨_, rfl⟩
      · exact ih he
  | cons x xs ih =>
    cases ys with
    | nil =>
      rw [pairEvents] at he
      rcases List.mem_cons.mp he with rfl | he
      · exact ⟨_, rfl⟩
      · exact ih [] he
    | cons y ys =>
      rw [pairEvents] at he
      split at he
      · exact ih ys he
      · rcases List.mem_cons.mp he with rfl | he
        · exact ⟨_, rfl⟩
        · exact ih ys he

/-- The events of two objects are differences if those of the fields are. -/
theorem allDifferences_objectEvents (hs : s.Faultless) (ht : t.Faultless) {a b : ObjectView}
    (ha : a.Faultless) (hb : b.Faultless) (path : String)
    {visit : String → Option State → State → List (Outcome Difference)}
    (hvisit : ∀ n x y, a.field? n = .value x → y.Faultless → AllDifferences (visit n x y)) :
    AllDifferences (objectEvents path s t a b visit) := by
  obtain ⟨k, hk⟩ := ha.kind
  obtain ⟨l, hl⟩ := hb.kind
  obtain ⟨ns, hns⟩ := ha.names
  obtain ⟨ms, hms⟩ := hb.names
  obtain ⟨shown, hshown⟩ := ha.text
  obtain ⟨shown', hshown'⟩ := hb.text
  have hfields : ∀ names, AllDifferences (fieldEvents a.field? b.field? visit names) := by
    intro names
    refine allDifferences_flatMap ?_
    intro n _
    obtain ⟨x, hx, -⟩ := ha.field n
    obtain ⟨y, hy, hfaultless⟩ := hb.field n
    simp only [hx, hy]
    refine hvisit n x _ hx ?_
    cases y with
    | none => trivial
    | some y => exact hfaultless y rfl
  simp only [objectEvents, hk, hl, hns, hms, hshown, hshown']
  split
  · split
    · split
      · exact allDifferences_nil
      · exact allDifferences_both hs ht path
    · exact hfields _
  · exact allDifferences_both hs ht path

/-- What stands on one side or on both at a place gives differences, if it does so on both. -/
theorem allDifferences_sides {c d : Prop} [Decidable c] [Decidable d]
    {es : List (Outcome Difference)} (path : String) (hone : c ∨ d) (hs : c → s.Faultless)
    (ht : d → t.Faultless) (hboth : c → d → AllDifferences es) :
    AllDifferences (if c then if d then es else [differing path (some s) none]
      else [differing path none (some t)]) := by
  by_cases hc : c
  · by_cases hd : d
    · simpa only [hc, hd, if_true] using hboth hc hd
    · simp only [hc, hd, if_true, if_false]
      exact allDifferences_differing (by simpa using hs hc) (by simp) path
  · simp only [hc, if_false]
    exact allDifferences_differing (by simp) (by simpa using ht (hone.resolve_left hc)) path

theorem allDifferences_scalars (hs : s.Faultless) (ht : t.Faultless) (path : String) :
    AllDifferences (if sameScalar s t then [] else [differing path (some s) (some t)]) := by
  split
  · exact allDifferences_nil
  · exact allDifferences_both hs ht path

/-- A field that an object has is walked as a state, and any other counts as null. -/
theorem allDifferences_field {o : ObjectView} (ho : o.Faultless) {n : String} {x : Option State}
    {y field : State} (hx : o.field? n = .value x) (hfield : ∀ v ∈ x, v = field)
    (hy : y.Faultless) (path : String)
    (hboth : field.Faultless → AllDifferences (field.events path y)) :
    AllDifferences (if x.isSome then field.events path y else nullEvents path y) := by
  obtain ⟨x', hx', hfaultless⟩ := ho.field n
  obtain rfl : x = x' := Outcome.value.inj (hx.symm.trans hx')
  cases x with
  | none => exact allDifferences_nullEvents hy path
  | some v =>
    obtain rfl := hfield v rfl
    exact hboth (hfaultless v rfl)

/-- All events met when two faultless states are walked together are differences. -/
theorem allDifferences_events (hs : s.Faultless) (ht : t.Faultless) (path : String) :
    AllDifferences (s.events path t) := by
  -- What lies below a place is walked with a longer path, and with what the other state has there.
  induction s generalizing t path with
  | list m a ih =>
    cases t with
    | list n b =>
      refine allDifferences_flatMap ?_
      intro i hi
      have hone : i < m ∨ i < n := by
        rw [List.mem_range] at hi
        omega
      exact allDifferences_sides _ hone (hs i) (ht i) fun hm hn => ih i (hs i hm) (ht i hn) _
    | _ => exact allDifferences_scalars hs ht path
  | map ks a ih =>
    cases t with
    | map ls b =>
      refine allDifferences_flatMap ?_
      intro k hk
      have hone : ks.contains k = true ∨ ls.contains k = true := by
        simpa using NameSet.mem_union.mp hk
      simp only [Faultless, ← NameSet.contains_iff] at hs ht
      exact allDifferences_sides _ hone (hs k) (ht k) fun hm hn => ih k (hs k hm) (ht k hn) _
    | _ => exact allDifferences_scalars hs ht path
  | pairs xs =>
    cases t with
    | pairs ys => exact allDifferences_pairEvents path xs ys
    | _ => exact allDifferences_scalars hs ht path
  | record kind names field ih =>
    simp only [events]
    cases ho : t.object? with
    | none => exact allDifferences_both hs ht path
    | some o =>
      have hself := faultless_of_object? hs (o := ⟨.value kind, .value names.names, _, _⟩) rfl
      refine allDifferences_objectEvents hs ht hself (faultless_of_object? ht ho) path ?_
      intro n x y hx hy
      obtain rfl := Outcome.value.inj hx
      exact allDifferences_field hself rfl (fun _ hv => (mem_recordField?_iff.mp hv).2) hy _
        fun hfield => ih n hfield hy _
  | foreign kind names shown reading field ih =>
    simp only [events]
    cases ho : t.object? with
    | none => exact allDifferences_both hs ht path
    | some o =>
      have hself := faultless_of_object? hs (o := ⟨kind, names, shown, _⟩) rfl
      refine allDifferences_objectEvents hs ht hself (faultless_of_object? ht ho) path ?_
      intro n x y hx hy
      exact allDifferences_field hself hx (eq_of_foreignField? hx) hy _
        fun hfield => ih n hfield hy _
  | _ => exact allDifferences_scalars hs ht path

theorem exists_firstDifferences {es : List (Outcome Difference)} (hes : AllDifferences es)
    (limit : Nat) : ∃ ds, firstDifferences limit es = .value ds := by
  induction es generalizing limit with
  | nil => cases limit <;> exact ⟨[], rfl⟩
  | cons e es ih =>
    cases limit with
    | zero => exact ⟨[], rfl⟩
    | succ limit =>
      obtain ⟨d, rfl⟩ := hes e List.mem_cons_self
      obtain ⟨ds, hds⟩ := ih (fun e he => hes e (List.mem_cons_of_mem _ he)) limit
      exact ⟨d :: ds, by rw [firstDifferences, Outcome.andThen_value, hds, Outcome.andThen_value]⟩

/-- Two faultless states can be compared, also if one of them is missing. -/
theorem exists_differencesBetween {before after : Option State}
    (hbefore : ∀ s ∈ before, s.Faultless) (hafter : ∀ s ∈ after, s.Faultless) (limit : Nat) :
    ∃ ds, differencesBetween before after limit = .value ds := by
  have hnull : ∀ o : Option State, (∀ s ∈ o, s.Faultless) → (o.getD null).Faultless := by
    intro o ho
    cases o with
    | none => trivial
    | some s => exact ho s rfl
  exact exists_firstDifferences
    (allDifferences_events (hnull before hbefore) (hnull after hafter) "") limit

end State

end RuleMatching
