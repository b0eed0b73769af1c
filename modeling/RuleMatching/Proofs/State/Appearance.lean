import RuleMatching.Proofs.Binary64.Text
import RuleMatching.Proofs.Instant.Text
import RuleMatching.Proofs.State.Mirror
import RuleMatching.Proofs.State.Transitivity

/-!
How differences look.  Every difference that a comparison reports is about two sides that are met when
the two states are walked together, and shows each of them.  Two sides that differ may be shown by one
text; but then they are of two forms, or both no number, or instants of which one runs on into the other,
or flag sets with one text, or entries of pairs with one text.  And both may be shown as nothing, if one
is null where the other has no item or no entry: `compare_shows_difference`.
-/

set_option autoImplicit false
set_option relaxedAutoImplicit false

namespace RuleMatching

/-- One of two sides that a comparison holds against each other: a state that may be missing, or an
entry of pairs that may be missing. -/
inductive Side where
  | state (s : Option State)
  | entry (e : Option (String × String))

/-- How a side is shown. -/
def Side.shown : Side → Outcome (Option String)
  | state s => State.side s
  | entry e => .value (e.map fun e => State.entryText e.1 e.2)

namespace State

/-- Two sides are met at a path when two states are walked together from another. -/
inductive Met : String → State → State → String → Side → Side → Prop
  | whole {path : String} {s t : State} : Met path s t path (.state (some s)) (.state (some t))
  | item {path below : String} {m n i : Nat} {a b : Nat → State} {x y : Side} (hm : i < m)
      (hn : i < n) (h : Met (childPath path (Numeral.text i)) (a i) (b i) below x y) :
      Met path (list m a) (list n b) below x y
  | itemOfOne {path : String} {m n i : Nat} {a b : Nat → State} (h : i < m ↔ ¬i < n) :
      Met path (list m a) (list n b) (childPath path (Numeral.text i))
        (.state (if i < m then some (a i) else none)) (.state (if i < n then some (b i) else none))
  | entry {path below key : String} {ks ls : NameSet} {a b : String → State} {x y : Side}
      (hk : key ∈ ks) (hl : key ∈ ls) (h : Met (childPath path key) (a key) (b key) below x y) :
      Met path (map ks a) (map ls b) below x y
  | entryOfOne {path key : String} {ks ls : NameSet} {a b : String → State}
      (h : key ∈ ks ↔ key ∉ ls) :
      Met path (map ks a) (map ls b) (childPath path key)
        (.state (if ks.contains key then some (a key) else none))
        (.state (if ls.contains key then some (b key) else none))
  | pair {path : String} {xs ys : List (String × String)} {i : Nat} {e : String × String}
      (h : xs[i]?.or ys[i]? = some e) :
      Met path (pairs xs) (pairs ys) (childPath path e.1) (.entry xs[i]?) (.entry ys[i]?)
  | field {path below name : String} {s t : State} {a b : ObjectView} {u v : Option State}
      {x y : Side} (ha : s.object? = some a) (hb : t.object? = some b) (hkind : a.kind = b.kind)
      (hu : a.field? name = .value u) (hv : b.field? name = .value v)
      (h : Met (childPath path name) (u.getD null) (v.getD null) below x y) :
      Met path s t below x y

/-- Two states of one form: scalars or containers of one type, or objects of one kind. -/
inductive OfOneForm : State → State → Prop
  | null : OfOneForm null null
  | bool (a b : Bool) : OfOneForm (bool a) (bool b)
  | int (i j : Int64) : OfOneForm (int i) (int j)
  | float (x y : Binary64) : OfOneForm (float x) (float y)
  | text (a b : String) : OfOneForm (text a) (text b)
  | instant (t u : Instant) : OfOneForm (instant t) (instant u)
  | flags (f g : FlagSet) : OfOneForm (flags f) (flags g)
  | list (m n : Nat) (a b : Nat → State) : OfOneForm (list m a) (list n b)
  | map (ks ls : NameSet) (a b : String → State) : OfOneForm (map ks a) (map ls b)
  | pairs (xs ys : List (String × String)) : OfOneForm (pairs xs) (pairs ys)
  | object {s t : State} {a b : ObjectView} (ha : s.object? = some a) (hb : t.object? = some b)
      (hkind : a.kind = b.kind) : OfOneForm s t

/-- What is of one form with an object is an object of its kind. -/
theorem OfOneForm.objects {s t : State} (h : OfOneForm s t) {a : ObjectView}
    (ha : s.object? = some a) :
    ∃ a' b', s.object? = some a' ∧ t.object? = some b' ∧ a'.kind = b'.kind := by
  cases h with
  | object ha' hb hkind => exact ⟨_, _, ha', hb, hkind⟩
  | _ => simp [object?] at ha

/-- Two sides that differ and may yet be shown by one text. -/
inductive Lookalike : Side → Side → Prop
  | forms {s t : State} (h : ¬OfOneForm s t) : Lookalike (.state (some s)) (.state (some t))
  | noNumbers {x y : Binary64} (hx : x.isNaN = true) (hy : y.isNaN = true) :
      Lookalike (.state (some (.float x))) (.state (some (.float y)))
  | instants {t u : Instant} (h : t.RunsInto u ∨ u.RunsInto t) :
      Lookalike (.state (some (.instant t))) (.state (some (.instant u)))
  | flags {f g : FlagSet} (hne : f.same g = false) (h : f.display = g.display) :
      Lookalike (.state (some (.flags f))) (.state (some (.flags g)))
  | entries {e e' : String × String} (hne : e ≠ e') (h : entryText e.1 e.2 = entryText e'.1 e'.2) :
      Lookalike (.entry (some e)) (.entry (some e'))

/-- Null on one side and nothing on the other, which are both shown as nothing. -/
inductive NullAndNothing : Side → Side → Prop
  | before : NullAndNothing (.state (some null)) (.state none)
  | after : NullAndNothing (.state none) (.state (some null))

/-- A difference shows two sides.  These are lookalikes if it shows one text for both, and null and
nothing if it shows nothing for both. -/
structure Reports (d : Difference) (x y : Side) : Prop where
  before : x.shown = .value d.before
  after : y.shown = .value d.after
  lookalike : ∀ text, d.before = some text → d.after = some text → Lookalike x y
  nothing : d.before = none → d.after = none → NullAndNothing x y

/-- Each difference among events reports two sides that are met at its path. -/
def Reported (path : String) (s t : State) (es : List (Outcome Difference)) : Prop :=
  ∀ d, .value d ∈ es → ∃ x y, Met path s t d.path x y ∧ Reports d x y

variable {s t : State} {path place : String} {u v : Option State} {d : Difference}

/-- Null is shown as nothing, and no other state. -/
theorem side_eq_none_iff : side u = .value none ↔ u = none ∨ u = some null := by
  cases u with
  | none => simp [side]
  | some s => cases s <;> simp [side, isNull, Outcome.andThen_eq_value_iff]

theorem reports_of_differing (h : .value d = differing place u v)
    (hlook : ∀ text, side u = .value (some text) → side v = .value (some text) →
      Lookalike (.state u) (.state v))
    (hnothing : side u = .value none → side v = .value none →
      NullAndNothing (.state u) (.state v)) : d.path = place ∧ Reports d (.state u) (.state v) := by
  obtain ⟨b, hb, h⟩ := Outcome.andThen_eq_value_iff.mp h.symm
  obtain ⟨a, ha, h⟩ := Outcome.andThen_eq_value_iff.mp h
  obtain rfl := Outcome.value.inj h
  refine ⟨rfl, hb, ha, ?_, ?_⟩
  · rintro text rfl rfl
    exact hlook text hb ha
  · rintro rfl rfl
    exact hnothing hb ha

theorem reported_nil : Reported path s t [] := by
  simp [Reported]

theorem reported_fault : Reported path s t [.fault] := by
  simp [Reported]

theorem reported_differing (hmet : Met path s t place (.state u) (.state v))
    (hlook : ∀ text, side u = .value (some text) → side v = .value (some text) →
      Lookalike (.state u) (.state v))
    (hnothing : side u = .value none → side v = .value none →
      NullAndNothing (.state u) (.state v)) : Reported path s t [differing place u v] := by
  intro d hd
  obtain ⟨rfl, hreports⟩ := reports_of_differing (List.mem_singleton.mp hd) hlook hnothing
  exact ⟨_, _, hmet, hreports⟩

theorem reported_flatMap {α : Type} {keys : List α} {f : α → List (Outcome Difference)}
    (h : ∀ k ∈ keys, Reported path s t (f k)) : Reported path s t (keys.flatMap f) := by
  intro d hd
  obtain ⟨k, hk, hd⟩ := List.mem_flatMap.mp hd
  exact h k hk d hd

/-- What is reported from a place further down is reported. -/
theorem Reported.lift {path' : String} {s' t' : State} {es : List (Outcome Difference)}
    (h : Reported path' s' t' es)
    (hmet : ∀ {p x y}, Met path' s' t' p x y → Met path s t p x y) : Reported path s t es := by
  intro d hd
  obtain ⟨x, y, hxy, hreports⟩ := h d hd
  exact ⟨x, y, hmet hxy, hreports⟩

theorem side_some_eq {text : String} (h : side (some s) = .value (some text)) :
    s.render = .value text := by
  rw [side] at h
  split at h
  · cases h
  · obtain ⟨shown, hshown, h⟩ := Outcome.andThen_eq_value_iff.mp h
    obtain rfl := Option.some.inj (Outcome.value.inj h)
    exact hshown

/-- Two states, not both null, that are held against each other as a whole. -/
theorem reported_whole (hnull : s = null → t ≠ null)
    (hlook : OfOneForm s t → ∀ text, s.render = .value text → t.render = .value text →
      Lookalike (.state (some s)) (.state (some t))) :
    Reported path s t [differing path (some s) (some t)] := by
  refine reported_differing .whole (fun text hs ht => ?_) fun hs ht => ?_
  · by_cases hform : OfOneForm s t
    · exact hlook hform text (side_some_eq hs) (side_some_eq ht)
    · exact .forms hform
  · have hs : s = null := by simpa using side_eq_none_iff.mp hs
    have ht : t = null := by simpa using side_eq_none_iff.mp ht
    exact absurd ht (hnull hs)

/-- Scalars of one type that differ are written differently, but for flag sets and for what is no
number. -/
theorem lookalike_of_scalars (hscalar : s.isScalar = true) (hdiffer : sameScalar s t = false)
    (hform : OfOneForm s t) (hrender : s.render = t.render) :
    Lookalike (.state (some s)) (.state (some t)) := by
  cases hform with
  | bool a b => cases a <;> cases b <;> simp_all [sameScalar, render]
  | int i j =>
    have hij := Int64.toInt_inj.mp (Numeral.integerText_injective (Outcome.value.inj hrender))
    simp [sameScalar, hij] at hdiffer
  | float x y =>
    obtain rfl | ⟨hx, hy⟩ := Binary64.text_inj (Outcome.value.inj hrender)
    · have hnan : x.isNaN = true := by simpa [sameScalar, Binary64.equals] using hdiffer
      exact .noNumbers hnan hnan
    · exact .noNumbers hx hy
  | text a b => simp_all [sameScalar, render]
  | instant t u =>
    rcases Instant.text_inj (Outcome.value.inj hrender) with rfl | hruns
    · simp [sameScalar] at hdiffer
    · exact .instants hruns
  | flags f g => exact .flags hdiffer (Outcome.value.inj hrender)
  | null | list | map | pairs => simp [isScalar, scalarText?] at hscalar
  | object ha => cases s <;> simp [object?, isScalar, scalarText?] at ha hscalar

theorem reported_scalars (hscalar : s.isScalar = true) :
    Reported path s t
      (if sameScalar s t then [] else [differing path (some s) (some t)]) := by
  split
  · exact reported_nil
  · rename_i hdiffer
    refine reported_whole (by rintro rfl; cases hscalar) fun hform text hs ht => ?_
    exact lookalike_of_scalars hscalar (Bool.eq_false_iff.mpr hdiffer) hform (hs.trans ht.symm)

/-- Two states that are not of one form are held against each other as a whole. -/
theorem reported_of_not_ofOneForm (hform : ¬OfOneForm s t) :
    Reported path s t [differing path (some s) (some t)] :=
  reported_whole (by rintro rfl rfl; exact hform .null) fun h => absurd h hform

/-- Two sides at a place of which at least one is there. -/
theorem reported_sides {c d : Prop} [Decidable c] [Decidable d] {x y : State}
    {es : List (Outcome Difference)} (hone : c ∨ d) (hboth : c → d → Reported path s t es)
    (hmet : (c ↔ ¬d) → Met path s t place (.state (if c then some x else none))
      (.state (if d then some y else none))) :
    Reported path s t (if c then if d then es else [differing place (some x) none]
      else [differing place none (some y)]) := by
  by_cases hc : c
  · by_cases hd : d
    · simpa only [hc, hd, if_true] using hboth hc hd
    · have hmet := hmet (iff_of_true hc hd)
      simp only [hc, hd, if_true, if_false] at hmet ⊢
      refine reported_differing hmet (fun text _ hy => by cases hy) fun hx _ => ?_
      obtain rfl : x = null := by simpa using side_eq_none_iff.mp hx
      exact .before
  · have hd : d := hone.resolve_left hc
    have hmet := hmet (iff_of_false hc (not_not.mpr hd))
    simp only [hc, hd, if_true, if_false] at hmet ⊢
    refine reported_differing hmet (fun text hx _ => by cases hx) fun _ hy => ?_
    obtain rfl : y = null := by simpa using side_eq_none_iff.mp hy
    exact .after

theorem reported_list {m n : Nat} {a b : Nat → State}
    (h : ∀ i, i < m → ∀ path, Reported path (a i) (b i) ((a i).events path (b i))) :
    Reported path (list m a) (list n b) ((list m a).events path (list n b)) := by
  simp only [events]
  refine reported_flatMap fun i hi => ?_
  rw [List.mem_range] at hi
  exact reported_sides (by omega) (fun hm hn => (h i hm _).lift (.item hm hn)) .itemOfOne

theorem reported_map {ks ls : NameSet} {a b : String → State}
    (h : ∀ k, k ∈ ks → ∀ path, Reported path (a k) (b k) ((a k).events path (b k))) :
    Reported path (map ks a) (map ls b) ((map ks a).events path (map ls b)) := by
  simp only [events]
  refine reported_flatMap fun k hk => ?_
  have hone : ks.contains k = true ∨ ls.contains k = true := by
    simpa using NameSet.mem_union.mp hk
  refine reported_sides hone (fun hks hls => ?_) fun hone => .entryOfOne (by simpa using hone)
  rw [NameSet.contains_iff] at hks hls
  exact (h k hks _).lift (.entry hks hls)

/-- A difference among the events of pairs shows the entries at some index, which differ. -/
theorem exists_index_of_mem_pairEvents {xs ys : List (String × String)}
    (hd : .value d ∈ pairEvents path xs ys) : ∃ (i : Nat) (e : String × String),
      xs[i]?.or ys[i]? = some e ∧ xs[i]? ≠ ys[i]? ∧ d =
        ⟨childPath path e.1, xs[i]?.map fun e => entryText e.1 e.2,
          ys[i]?.map fun e => entryText e.1 e.2⟩ := by
  induction xs generalizing ys with
  | nil =>
    induction ys with
    | nil => simp [pairEvents] at hd
    | cons y ys ih =>
      rw [pairEvents] at hd
      rcases List.mem_cons.mp hd with hd | hd
      · exact ⟨0, y, rfl, by simp, Outcome.value.inj hd⟩
      · obtain ⟨i, h⟩ := ih hd
        exact ⟨i + 1, by simpa using h⟩
  | cons x xs ih =>
    cases ys with
    | nil =>
      rw [pairEvents] at hd
      rcases List.mem_cons.mp hd with hd | hd
      · exact ⟨0, x, rfl, by simp, Outcome.value.inj hd⟩
      · obtain ⟨i, h⟩ := ih hd
        exact ⟨i + 1, by simpa using h⟩
    | cons y ys =>
      rw [pairEvents] at hd
      split at hd
      · obtain ⟨i, h⟩ := ih hd
        exact ⟨i + 1, by simpa using h⟩
      · rename_i hne
        rcases List.mem_cons.mp hd with hd | hd
        · exact ⟨0, x, rfl, by simpa using hne, Outcome.value.inj hd⟩
        · obtain ⟨i, h⟩ := ih hd
          exact ⟨i + 1, by simpa using h⟩

theorem reported_pairs {xs ys : List (String × String)} :
    Reported path (pairs xs) (pairs ys) (pairEvents path xs ys) := by
  intro d hd
  obtain ⟨i, e, he, hne, rfl⟩ := exists_index_of_mem_pairEvents hd
  refine ⟨_, _, .pair he, rfl, rfl, ?_, ?_⟩
  · intro text hx hy
    obtain ⟨x, hx, htext⟩ := Option.map_eq_some_iff.mp hx
    obtain ⟨y, hy, htext'⟩ := Option.map_eq_some_iff.mp hy
    rw [hx, hy] at hne ⊢
    exact .entries (fun heq => hne (congrArg some heq)) (htext.trans htext'.symm)
  · intro hx hy
    rw [Option.map_eq_none_iff.mp hx, Option.map_eq_none_iff.mp hy] at he
    cases he

/-- Two objects of which each field is reported. -/
theorem reported_objects {a b : ObjectView} (ha : s.object? = some a) (hb : t.object? = some b)
    (hfield : ∀ n u v path, a.field? n = .value u → b.field? n = .value v →
      Reported path (u.getD null) (v.getD null) ((u.getD null).events path (v.getD null))) :
    Reported path s t (s.events path t) := by
  rw [events_of_object? path ha hb]
  unfold objectEvents
  split
  · rename_i k l hk hl
    split
    · rename_i hkind
      have hkind : a.kind = b.kind := by rw [hk, hl, hkind]
      split
      · split
        · split
          · rename_i shown shown' hshown hshown'
            split
            · exact reported_nil
            · rename_i hne
              refine reported_whole (by rintro rfl; cases ha) fun _ text hs ht => absurd ?_ hne
              rw [← (kind_text_of_object? ha).2, hshown] at hs
              rw [← (kind_text_of_object? hb).2, hshown'] at ht
              exact Outcome.value.inj (hs.trans ht.symm)
          · exact reported_fault
        · refine reported_flatMap fun n hn => ?_
          split
          · rename_i u v hu hv
            exact (hfield n u v _ hu hv).lift (.field ha hb hkind hu hv)
          · exact reported_fault
      · exact reported_fault
    · rename_i hkind
      refine reported_of_not_ofOneForm fun hform => hkind ?_
      obtain ⟨a', b', ha', hb', hkinds⟩ := hform.objects ha
      obtain rfl := Option.some.inj (ha.symm.trans ha')
      obtain rfl := Option.some.inj (hb.symm.trans hb')
      rw [hk, hl] at hkinds
      exact Outcome.value.inj hkinds
  · exact reported_fault

theorem reported_null (t : State) (path : String) : Reported path null t (null.events path t) := by
  rw [events_null, nullEvents]
  split
  · exact reported_nil
  · rename_i hnull
    refine reported_of_not_ofOneForm fun hform => hnull ?_
    cases hform with
    | null => rfl
    | object ha => simp [object?] at ha

/-- An object and any state, if each field of the object is reported. -/
theorem reported_object {a : ObjectView} (ha : s.object? = some a)
    (hfield : ∀ n x, a.field? n = .value (some x) → ∀ y path,
      Reported path x y (x.events path y)) :
    Reported path s t (s.events path t) := by
  cases hb : t.object? with
  | some b =>
    refine reported_objects ha hb fun n u v path hu _ => ?_
    cases u with
    | none => exact reported_null _ path
    | some x => exact hfield n x hu _ path
  | none =>
    rw [(events_of_object?_of_none path ha hb).1]
    refine reported_of_not_ofOneForm fun hform => ?_
    obtain ⟨a', b', -, hb', -⟩ := hform.objects ha
    simp [hb] at hb'

/-- The events met when two states are walked together report sides that are met. -/
theorem reported_events (s t : State) (path : String) : Reported path s t (s.events path t) := by
  induction s generalizing t path with
  | null => exact reported_null t path
  | list m a ih =>
    cases t with
    | list n b => exact reported_list fun i _ path => ih i (b i) path
    | _ => exact reported_of_not_ofOneForm fun hform => by cases hform; simp_all [object?]
  | map ks a ih =>
    cases t with
    | map ls b => exact reported_map fun k _ path => ih k (b k) path
    | _ => exact reported_of_not_ofOneForm fun hform => by cases hform; simp_all [object?]
  | pairs xs =>
    cases t with
    | pairs ys => exact reported_pairs
    | _ => exact reported_of_not_ofOneForm fun hform => by cases hform; simp_all [object?]
  | record k ns f ih =>
    refine reported_object rfl fun n x hx y path => ?_
    obtain ⟨-, rfl⟩ := mem_recordField?_iff.mp (Outcome.value.inj hx)
    exact ih n y path
  | foreign k ns shown r f ih =>
    refine reported_object rfl fun n x hx y path => ?_
    obtain rfl := eq_of_foreignField? hx x rfl
    exact ih n y path
  | _ => exact reported_scalars rfl

/-- Each difference that a comparison comes to is about two sides that are met at its path when the
states are walked together, and shows them.  If it shows one text for both, then they are two states that
are not of one form, or two numbers that are none, or two instants of which one runs on into the other,
or two flag sets with one text, or two entries of pairs with one text.  If it shows nothing for both, then
one is null and the other an item or an entry that is missing.  A comparison of states in which nothing
faults comes to a result. -/
theorem compare_shows_difference (s t : State) (limit : Nat) :
    (s.Faultless → t.Faultless → ∃ ds, compare s t limit = .value ds) ∧
    ∀ ds, compare s t limit = .value ds → ∀ d ∈ ds,
      ∃ x y, Met "" s t d.path x y ∧ Reports d x y := by
  refine ⟨fun hs ht => exists_firstDifferences (allDifferences_events hs ht "") limit, ?_⟩
  intro ds hds d hd
  refine reported_events s t "" d (List.mem_of_mem_take (i := limit) ?_)
  rw [take_eq_of_firstDifferences hds]
  exact List.mem_map_of_mem hd

/-- A number and its text are shown alike, and so are null and nothing. -/
theorem compare_shows_alike :
    compare (.int 1) (.text "1") unlimited = .value [⟨"", some "1", some "1"⟩] ∧
      compare (ofItems [.null]) (ofItems []) unlimited = .value [⟨"0", none, none⟩] := by
  decide +kernel

end State

end RuleMatching
