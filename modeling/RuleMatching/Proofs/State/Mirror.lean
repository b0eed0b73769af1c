import Mathlib.Data.List.Forall2
import Mathlib.Data.List.Sort
import RuleMatching.Proofs.State.Equality

/-!
The order of the states in a comparison.  Two states that are walked the other way round give the
same events, each in its place and with its sides exchanged: `mirrored_events`.  So a limit cuts off
the same part of both walks, `compare_exchange`.  A difference is at the same path in both unless it
is one of pairs, which is named after the key on the side that comes first.
-/

set_option autoImplicit false
set_option relaxedAutoImplicit false

namespace RuleMatching

/-- Two computations both fault, or come to values that are related. -/
inductive Outcome.Related {α β : Type} (R : α → β → Prop) : Outcome α → Outcome β → Prop
  | value {a : α} {b : β} (h : R a b) : Related R (.value a) (.value b)
  | fault : Related R .fault .fault

theorem Outcome.Related.andThen {α β γ δ : Type} {R : α → β → Prop} {S : γ → δ → Prop}
    {o : Outcome α} {o' : Outcome β} {f : α → Outcome γ} {g : β → Outcome δ} (ho : o.Related R o')
    (hf : ∀ a b, R a b → (f a).Related S (g b)) : (o.andThen f).Related S (o'.andThen g) := by
  cases ho with
  | value h => exact hf _ _ h
  | fault => exact .fault

/-- Of two differences, each shows first what the other shows last, and they are at one path if that
is asked for. -/
structure Difference.Mirrors (samePath : Prop) (d e : Difference) : Prop where
  before : e.before = d.after
  after : e.after = d.before
  path : samePath → e.path = d.path

/-- The set of names that are in either of two lists does not depend on their order. -/
theorem NameSet.names_ofList_append_comm (ns ms : List String) :
    (ofList (ns ++ ms)).names = (ofList (ms ++ ns)).names := by
  refine List.Pairwise.eq_of_mem_iff (ofList (ns ++ ms)).ascending (ofList (ms ++ ns)).ascending ?_
  intro n
  simp only [mem_names, mem_ofList, List.mem_append, or_comm]

namespace State

/-- There are no pairs in a state, as far down as it can be read. -/
def PairFree : State → Prop
  | list size item => ∀ i, i < size → (item i).PairFree
  | map keys entry => ∀ k, k ∈ keys → (entry k).PairFree
  | pairs _ => False
  | record _ names field => ∀ n, n ∈ names → (field n).PairFree
  | foreign _ _ _ reading field => ∀ n, reading n = .present → (field n).PairFree
  | _ => True

variable {s t : State} {a b : ObjectView} {path : String} {samePath : Prop}
  {es es' : List (Outcome Difference)}

/-- What an object without pairs has under a name is free of pairs. -/
theorem PairFree.field (hs : s.PairFree) (ha : s.object? = some a) {n : String} {x : Option State}
    (hx : a.field? n = .value x) : (x.getD null).PairFree := by
  cases x with
  | none => trivial
  | some v =>
    cases s with
    | record k ns f =>
      obtain rfl := Option.some.inj ha
      obtain ⟨hn, rfl⟩ := mem_recordField?_iff.mp (Outcome.value.inj hx)
      exact hs n hn
    | foreign k ns shown r f =>
      obtain rfl := Option.some.inj ha
      obtain rfl := eq_of_foreignField? hx v rfl
      refine hs n ?_
      simp only [foreignField?] at hx
      cases hn : r n <;> simp [hn] at hx ⊢
    | _ => simp [object?] at ha

/-! ### Events with their sides exchanged -/

/-- Two sequences of events have faults in the same positions, and in all others differences that
mirror each other. -/
def Mirrored (samePath : Prop) (es es' : List (Outcome Difference)) : Prop :=
  List.Forall₂ (Outcome.Related (Difference.Mirrors samePath)) es es'

theorem mirrored_fault : Mirrored samePath [.fault] [.fault] := .cons .fault .nil

theorem mirrored_differing (path : String) (x y : Option State) :
    Mirrored samePath [differing path x y] [differing path y x] := by
  refine .cons ?_ .nil
  rw [differing, differing]
  cases side x with
  | fault => cases side y <;> exact .fault
  | value b =>
    cases side y with
    | fault => exact .fault
    | value a => exact .value ⟨rfl, rfl, fun _ => rfl⟩

/-- States that are compared as a whole. -/
theorem mirrored_whole (path : String) (s t : State) : Mirrored samePath
    (if sameScalar s t then [] else [differing path (some s) (some t)])
    (if sameScalar t s then [] else [differing path (some t) (some s)]) := by
  rw [sameScalar_comm t s]
  split
  · exact .nil
  · exact mirrored_differing path (some s) (some t)

theorem mirrored_null (path : String) (t : State) :
    Mirrored samePath (null.events path t) (t.events path null) := by
  cases t <;> exact mirrored_whole path null _

/-- What lies below the same places mirrors each other if it does below each of them. -/
theorem mirrored_flatMap {α : Type} {places : List α} {f g : α → List (Outcome Difference)}
    (h : ∀ x ∈ places, Mirrored samePath (f x) (g x)) :
    Mirrored samePath (places.flatMap f) (places.flatMap g) := by
  have hplaces : List.Forall₂ (fun x y => x = y ∧ x ∈ places) places places :=
    List.forall₂_same.mpr fun x hx => ⟨rfl, hx⟩
  refine List.rel_flatMap hplaces ?_
  rintro x y ⟨rfl, hx⟩
  exact h x hx

/-- A place that at least one of two containers has. -/
theorem mirrored_sides {c d : Prop} [Decidable c] [Decidable d] (hone : c ∨ d)
    (hboth : c → d → Mirrored samePath es es') : Mirrored samePath
      (if c then if d then es else [differing path (some s) none]
        else [differing path none (some t)])
      (if d then if c then es' else [differing path (some t) none]
        else [differing path none (some s)]) := by
  by_cases hc : c
  · by_cases hd : d
    · simpa only [hc, hd, if_true] using hboth hc hd
    · simpa only [hc, hd, if_true, if_false] using mirrored_differing path (some s) none
  · have hd : d := hone.resolve_left hc
    simpa only [hc, hd, if_true, if_false] using mirrored_differing path none (some t)

/-- Lists of pairs differ at the same positions, but the names of these are taken from the first. -/
theorem mirrored_pairEvents (path : String) (xs ys : List (String × String)) :
    Mirrored False (pairEvents path xs ys) (pairEvents path ys xs) := by
  have hhead : ∀ d e : Difference, d.after = e.before → e.after = d.before →
      (Outcome.value d).Related (Difference.Mirrors False) (.value e) :=
    fun d e hbefore hafter => .value ⟨hbefore.symm, hafter, False.elim⟩
  induction xs, ys using pairEvents.induct with
  | case1 =>
    rw [pairEvents]
    exact .nil
  | case2 x xs ih =>
    rw [pairEvents, pairEvents]
    exact .cons (hhead _ _ rfl rfl) ih
  | case3 y ys ih =>
    rw [pairEvents, pairEvents]
    exact .cons (hhead _ _ rfl rfl) ih
  | case4 x xs ys ih =>
    rw [pairEvents, pairEvents, if_pos rfl, if_pos rfl]
    exact ih
  | case5 x xs y ys hne ih =>
    rw [pairEvents, pairEvents, if_neg hne, if_neg (Ne.symm hne)]
    exact .cons (hhead _ _ rfl rfl) ih

theorem mirrored_fieldEvents {visit visit' : String → Option State → State →
      List (Outcome Difference)}
    (hvisit : ∀ n x y, a.field? n = .value x → b.field? n = .value y →
      Mirrored samePath (visit n x (y.getD null)) (visit' n y (x.getD null)))
    (names : List String) : Mirrored samePath (fieldEvents a.field? b.field? visit names)
      (fieldEvents b.field? a.field? visit' names) := by
  refine mirrored_flatMap fun n _ => ?_
  cases hx : a.field? n with
  | fault => cases b.field? n <;> exact mirrored_fault
  | value x =>
    cases hy : b.field? n with
    | fault => exact mirrored_fault
    | value y => exact hvisit n x y hx hy

/-- Two objects give events that mirror each other if the fields do that both can be asked for. -/
theorem mirrored_objectEvents {visit visit' : String → Option State → State →
      List (Outcome Difference)}
    (hvisit : ∀ n x y, a.field? n = .value x → b.field? n = .value y →
      Mirrored samePath (visit n x (y.getD null)) (visit' n y (x.getD null))) :
    Mirrored samePath (objectEvents path s t a b visit) (objectEvents path t s b a visit') := by
  have hdiffer : Mirrored samePath [differing path (some s) (some t)]
      [differing path (some t) (some s)] := mirrored_differing path (some s) (some t)
  rw [objectEvents, objectEvents]
  -- Each method is asked on both objects before the next one, and a fault of either ends the walk.
  rcases a.kind with k | _ <;> rcases b.kind with l | _
  any_goals exact mirrored_fault
  by_cases hkind : k = l
  · simp only [hkind, if_true]
    rcases a.names with ns | _ <;> rcases b.names with ms | _
    any_goals exact mirrored_fault
    simp only [NameSet.names_ofList_append_comm ms ns]
    split
    · rcases a.text with shown | _ <;> rcases b.text with shown' | _
      any_goals exact mirrored_fault
      by_cases htext : shown = shown'
      · simpa only [htext, if_true] using .nil
      · simpa only [htext, Ne.symm htext, if_false] using hdiffer
    · exact mirrored_fieldEvents hvisit _
  · simpa only [hkind, Ne.symm hkind, if_false] using hdiffer

/-- An object and what is none differ as a whole. -/
theorem events_of_object?_of_none (path : String) (ha : s.object? = some a)
    (hb : t.object? = none) : s.events path t = [differing path (some s) (some t)] ∧
      t.events path s = [differing path (some t) (some s)] := by
  have hsome : ∀ o, t.object? ≠ some o := by simp [hb]
  cases s with
  | record k ns f =>
    cases t with
    | record l ms g => exact absurd rfl (hsome _)
    | foreign l ms shown r g => exact absurd rfl (hsome _)
    | _ => exact ⟨rfl, rfl⟩
  | foreign k ns shown r f =>
    cases t with
    | record l ms g => exact absurd rfl (hsome _)
    | foreign l ms shown r g => exact absurd rfl (hsome _)
    | _ => exact ⟨rfl, rfl⟩
  | _ => simp [object?] at ha

/-- An object and any state give events that mirror each other, if that is so for its fields. -/
theorem mirrored_of_object? (ha : s.object? = some a)
    (hfield : ∀ n x, a.field? n = .value (some x) → ∀ y path,
      (samePath → x.PairFree ∨ y.PairFree) → Mirrored samePath (x.events path y) (y.events path x))
    (hfree : samePath → s.PairFree ∨ t.PairFree) :
    Mirrored samePath (s.events path t) (t.events path s) := by
  cases hb : t.object? with
  | none =>
    obtain ⟨hst, hts⟩ := events_of_object?_of_none path ha hb
    rw [hst, hts]
    exact mirrored_differing path (some s) (some t)
  | some b =>
    rw [events_of_object? path ha hb, events_of_object? path hb ha]
    refine mirrored_objectEvents fun n x y hx hy => ?_
    cases x with
    | none => exact mirrored_null _ _
    | some x =>
      refine hfield n x hx _ _ fun hpath => ?_
      exact (hfree hpath).imp (fun hs => hs.field ha hx) fun ht => ht.field hb hy

/-- The other way round, two states give the same events with their sides exchanged, and they are at
the same paths if there are no pairs in one of the states. -/
theorem mirrored_events (path : String) (hfree : samePath → s.PairFree ∨ t.PairFree) :
    Mirrored samePath (s.events path t) (t.events path s) := by
  -- Both walks go through the same places, and what is found there has pairs only if the whole has.
  induction s generalizing t path with
  | list m a ih =>
    cases t with
    | list n b =>
      rw [events, events, Nat.max_comm n m]
      refine mirrored_flatMap fun i hi => ?_
      have hone : i < m ∨ i < n := by
        rw [List.mem_range] at hi
        omega
      refine mirrored_sides hone fun hm hn => ih i _ fun hpath => ?_
      exact (hfree hpath).imp (fun hs => hs i hm) fun ht => ht i hn
    | _ => exact mirrored_whole path (list m a) _
  | map ks a ih =>
    cases t with
    | map ls b =>
      rw [events, events, NameSet.union, NameSet.union, NameSet.names_ofList_append_comm ls.names]
      refine mirrored_flatMap fun k hk => ?_
      have hone : ks.contains k = true ∨ ls.contains k = true := by
        simpa using hk
      refine mirrored_sides hone fun hks hls => ih k _ fun hpath => ?_
      rw [NameSet.contains_iff] at hks hls
      exact (hfree hpath).imp (fun hs => hs k hks) fun ht => ht k hls
    | _ => exact mirrored_whole path (map ks a) _
  | pairs xs =>
    cases t with
    | pairs ys =>
      have hnone : samePath ↔ False := iff_false_intro fun hpath => (hfree hpath).elim id id
      rw [events, events, hnone]
      exact mirrored_pairEvents path xs ys
    | _ => exact mirrored_whole path (pairs xs) _
  | record k ns f ih =>
    refine mirrored_of_object? rfl ?_ hfree
    intro n x hx y below hbelow
    obtain ⟨-, rfl⟩ := mem_recordField?_iff.mp (Outcome.value.inj hx)
    exact ih n below hbelow
  | foreign k ns shown r f ih =>
    refine mirrored_of_object? rfl ?_ hfree
    intro n x hx y below hbelow
    obtain rfl := eq_of_foreignField? hx x rfl
    exact ih n below hbelow
  | _ => cases t <;> exact mirrored_whole path _ _

/-! ### Comparisons with their sides exchanged -/

/-- The first differences among events mirror those among events that mirror them. -/
theorem mirrored_firstDifferences (h : Mirrored samePath es es') (limit : Nat) :
    (firstDifferences limit es).Related (List.Forall₂ (Difference.Mirrors samePath))
      (firstDifferences limit es') := by
  induction h generalizing limit with
  | nil => cases limit <;> exact .value .nil
  | cons hevent _ ih =>
    cases limit with
    | zero => exact .value .nil
    | succ limit =>
      rw [firstDifferences, firstDifferences]
      refine hevent.andThen fun d e hde => (ih limit).andThen fun ds es hrest => ?_
      exact .value (.cons hde hrest)

/-- Two states can be compared just if they can be compared the other way round.  As many
differences are found then, each in its place and with its sides exchanged, and they are at the same
paths if there are no pairs in one of the states. -/
theorem compare_exchange (s t : State) (limit : Nat) :
    (compare s t limit = .fault ∧ compare t s limit = .fault) ∨
    ∃ ds es, compare s t limit = .value ds ∧ compare t s limit = .value es ∧
      es.length = ds.length ∧ ∀ (i : Nat) (d e : Difference), ds[i]? = some d → es[i]? = some e →
        e.before = d.after ∧ e.after = d.before ∧ (s.PairFree ∨ t.PairFree → e.path = d.path) := by
  have hmirrored : (compare s t limit).Related
      (List.Forall₂ (Difference.Mirrors (s.PairFree ∨ t.PairFree))) (compare t s limit) :=
    mirrored_firstDifferences (mirrored_events "" id) limit
  generalize compare s t limit = found, compare t s limit = found' at hmirrored ⊢
  cases hmirrored with
  | fault => exact .inl ⟨rfl, rfl⟩
  | @value ds es hmirrors =>
    refine .inr ⟨ds, es, rfl, rfl, hmirrors.length_eq.symm, ?_⟩
    intro i d e hd he
    obtain ⟨hi, rfl⟩ := List.getElem?_eq_some_iff.mp hd
    obtain ⟨hi', rfl⟩ := List.getElem?_eq_some_iff.mp he
    obtain ⟨hbefore, hafter, hpath⟩ := hmirrors.get hi hi'
    exact ⟨hbefore, hafter, hpath⟩

/-- The item that a list has lost is one that it has got, seen from the other side.  Two pairs that
differ are at the path of the first, so at another one from the other side. -/
theorem compare_exchange_of_lost_item :
    let s := ofItems [text "admin", text "dev"]
    let t := ofItems [text "admin"]
    let u := pairs [("a", "1")]
    let v := pairs [("b", "1")]
    (s.PairFree ∧ compare s t 5 = .value [⟨"1", some "dev", none⟩] ∧
      ∃ e, compare t s 5 = .value [e] ∧ e.before = none ∧ e.after = some "dev" ∧ e.path = "1") ∧
    compare u v 5 = .value [⟨"a", some "a: 1", some "b: 1"⟩] ∧
    compare v u 5 = .value [⟨"b", some "b: 1", some "a: 1"⟩] := by
  intro s t u v
  have hs : s.PairFree := by
    intro i hi
    obtain rfl | rfl : i = 0 ∨ i = 1 := by
      have hi : i < 2 := hi
      omega
    · trivial
    · trivial
  have hst : compare s t 5 = .value [⟨"1", some "dev", none⟩] := by decide +kernel
  refine ⟨⟨hs, hst, ?_⟩, ?_, ?_⟩
  · obtain ⟨hfault, -⟩ | ⟨ds, es, hds, hes, hlength, heach⟩ := compare_exchange s t 5
    · rw [hst] at hfault
      exact absurd hfault (by decide)
    · obtain rfl := Outcome.value.inj (hst.symm.trans hds)
      obtain ⟨e, rfl⟩ := List.length_eq_one_iff.mp hlength
      obtain ⟨hbefore, hafter, hpath⟩ := heach 0 _ e rfl rfl
      exact ⟨e, hes, hbefore, hafter, hpath (.inl hs)⟩
  · simp [u, v, compare, events, pairEvents, firstDifferences, childPath, entryText]
  · simp [u, v, compare, events, pairEvents, firstDifferences, childPath, entryText]

end State

end RuleMatching
