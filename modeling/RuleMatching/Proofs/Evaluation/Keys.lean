import RuleMatching.Proofs.Evaluation.Verdict

/-!
Looking for keys in dictionaries: maps, lists of pairs and records.  A clause that does applies just
if some dictionary has one of the wanted keys.  The clause inverted is its negation as soon as some
dictionary has a key at all; dictionaries without keys count as if they were none, and decide nothing:
`Matcher.applies_containsKey_iff`.
-/

set_option autoImplicit false
set_option relaxedAutoImplicit false

namespace RuleMatching

open Judgement (present)

namespace State

/-- Maps, lists of pairs and records. -/
def isDictionary : State → Bool
  | map _ _ | pairs _ | record _ _ _ => true
  | _ => false

/-- A record without fields. -/
def isBare : State → Bool
  | record _ names _ => names.names.isEmpty
  | _ => false

/-- A dictionary has a key.  A record without fields has the keys of the pairs that it can be brought
down to. -/
inductive HasKeyNamed (reducers : List Reducer) (key : String) : State → Prop where
  | entry {keys : NameSet} {entry : String → State} (h : key ∈ keys) :
      HasKeyNamed reducers key (map keys entry)
  | pair {entries : List (String × String)} {value : String} (h : (key, value) ∈ entries) :
      HasKeyNamed reducers key (pairs entries)
  | field {kind : String} {names : NameSet} {field : String → State} (h : key ∈ names) :
      HasKeyNamed reducers key (record kind names field)
  | reduced {kind value : String} {names : NameSet} {field : String → State} {x : Reduction}
      (hbare : names.names = []) (hreduce : (record kind names field).reduce reducers = .value x)
      (h : (key, value) ∈ x.pairs) : HasKeyNamed reducers key (record kind names field)

end State

namespace Judgement

variable {reducers : List Reducer} {c : Clause} {states : List State} {s : State} {key : String}

theorem keysOf_record_of_bare {kind : String} {names : NameSet} {field : String → State}
    (hbare : names.names = []) :
    keysOf reducers (.record kind names field) =
      ((State.record kind names field).reduce reducers).andThen fun x =>
        .value (x.pairs.map (·.1)) := by
  simp only [keysOf, State.object?, Outcome.andThen_value, hbare, pairsOf]
  cases (State.record kind names field).reduce reducers <;> rfl

theorem keysOf_record_of_ne_nil {kind : String} {names : NameSet} {field : String → State}
    (hfields : names.names ≠ []) :
    keysOf reducers (.record kind names field) = .value names.names := by
  simp only [keysOf, State.object?, Outcome.andThen_value]
  cases hnames : names.names with
  | nil => exact absurd hnames hfields
  | cons n ns => rfl

/-- The keys that are listed for a dictionary are those that it has. -/
theorem mem_keysOf_iff (hs : s.isDictionary = true) {ks : List String}
    (h : keysOf reducers s = .value ks) : key ∈ ks ↔ s.HasKeyNamed reducers key := by
  cases s with
  | map keys entry =>
    obtain rfl : keys.names = ks := Outcome.value.inj h
    constructor
    · exact .entry
    · rintro ⟨hkey⟩
      exact hkey
  | pairs entries =>
    obtain rfl : entries.map (·.1) = ks := Outcome.value.inj h
    constructor
    · intro hkey
      obtain ⟨⟨k, value⟩, hentry, rfl⟩ := List.mem_map.mp hkey
      exact .pair hentry
    · rintro (hentry | hentry)
      exact List.mem_map.mpr ⟨_, hentry, rfl⟩
  | record kind names field =>
    by_cases hbare : names.names = []
    · rw [keysOf_record_of_bare hbare] at h
      obtain ⟨x, hreduce, h⟩ := Outcome.andThen_eq_value_iff.mp h
      obtain rfl := Outcome.value.inj h
      constructor
      · intro hkey
        obtain ⟨⟨k, value⟩, hpair, rfl⟩ := List.mem_map.mp hkey
        exact .reduced hbare hreduce hpair
      · intro hkey
        cases hkey with
        | field hname => simp [← NameSet.mem_names, hbare] at hname
        | reduced _ hreduce' hpair =>
          obtain rfl := Outcome.value.inj (hreduce.symm.trans hreduce')
          exact List.mem_map.mpr ⟨_, hpair, rfl⟩
    · rw [keysOf_record_of_ne_nil hbare] at h
      obtain rfl := Outcome.value.inj h
      constructor
      · exact .field
      · intro hkey
        cases hkey with
        | field hname => exact hname
        | reduced hbare' _ _ => exact absurd hbare' hbare
  | _ => simp [State.isDictionary] at hs

theorem hasKey_iff (hs : s.isDictionary = true) {ks : List String}
    (h : keysOf reducers s = .value ks) : HasKey reducers s ↔ ∃ k, s.HasKeyNamed reducers k := by
  constructor
  · rintro ⟨ks', hks', hne⟩
    obtain ⟨k, hk⟩ := List.exists_mem_of_ne_nil ks' hne
    exact ⟨k, (mem_keysOf_iff hs hks').mp hk⟩
  · rintro ⟨k, hk⟩
    exact ⟨ks, h, List.ne_nil_of_mem ((mem_keysOf_iff hs h).mpr hk)⟩

/-- The keys of a dictionary can be listed, but for records without fields on which a reducer
faults. -/
theorem exists_keysOf (hs : s.isDictionary = true)
    (hreducers : s.isBare = true → ∀ e ∈ reducers, ∃ x, e s = .value x) :
    ∃ ks, keysOf reducers s = .value ks := by
  cases s with
  | map keys entry => exact ⟨_, rfl⟩
  | pairs entries => exact ⟨_, rfl⟩
  | record kind names field =>
    by_cases hbare : names.names = []
    · have hrender : ∃ text, (State.record kind names field).render = .value text := by
        rw [State.render, hbare]
        exact ⟨_, rfl⟩
      obtain ⟨x, hx⟩ := State.exists_reduceBy hrender (hreducers (by simp [State.isBare, hbare]))
      have hreduce : (State.record kind names field).reduce reducers = .value x := hx
      exact ⟨_, by rw [keysOf_record_of_bare hbare, hreduce, Outcome.andThen_value]⟩
    · exact ⟨_, keysOf_record_of_ne_nil hbare⟩
  | _ => simp [State.isDictionary] at hs

/-- The judgement on keys holds just if some state has one of the wanted. -/
theorem verdict_someKey_eq_true_iff (hdata : c.data ≠ []) {v : Option Judgement}
    (h : someKey reducers c states = .value v) :
    verdict v = (true : Bool) ↔
      ∃ s ∈ states, ∃ ks, keysOf reducers s = .value ks ∧ ∃ k ∈ c.data, k ∈ ks := by
  obtain ⟨keyed, hkeyed, hshows⟩ := shows_someKey (by simpa using hdata) h
  have hfound : verdict v = (true : Bool) ↔ ∃ ks ∈ keyed, ∃ k ∈ c.data, k ∈ ks := by
    rw [verdict_eq_true_iff, hshows.affirmed_eq, ← Option.isSome_iff_exists, Option.isSome_map,
      Option.isSome_map, List.find?_isSome]
    simp [and_comm]
  rw [hfound]
  constructor
  · rintro ⟨ks, hks, hwanted⟩
    obtain ⟨s, hs, hkeys⟩ := Outcome.exists_of_mem_forEach hkeyed hks
    exact ⟨s, hs, ks, hkeys, hwanted⟩
  · rintro ⟨s, hs, ks, hkeys, hwanted⟩
    obtain ⟨ks', hmem, hkeys'⟩ := Outcome.exists_mem_of_forEach hkeyed hs
    obtain rfl := Outcome.value.inj (hkeys.symm.trans hkeys')
    exact ⟨ks, hmem, hwanted⟩

end Judgement

namespace Matcher

variable {m m' : Matcher} {c : Clause} {state1 state2 r1 r2 : Option State}

/-- Let a clause look for keys in dictionaries, and let no reducer fault on those that are records
without fields.  The clause applies just if some dictionary has one of the wanted keys.  Exactly one
of the clause and the flipped one applies just if some dictionary has a key, and else none of them
does. -/
theorem applies_containsKey_iff (hcontext : m'.context = m.context)
    (hoperation : c.operation = .containsKey) (hdata : c.data ≠ []) (hplain : c.invert = false)
    (hresolve : m.context.resolveBoth c state1 state2 = .value (r1, r2))
    (hdictionary : ∀ s ∈ present r1 r2, s.isDictionary = true)
    (hreducers : ∀ s ∈ present r1 r2, s.isBare = true →
      ∀ e ∈ m.registry.reducers, ∃ x, e s = .value x) :
    (m.applies c state1 state2 = true ↔
      ∃ s ∈ present r1 r2, ∃ k ∈ c.data, s.HasKeyNamed m.registry.reducers k) ∧
    (m.applies c state1 state2 ≠ m'.applies c.flipped state1 state2 ↔
      ∃ s ∈ present r1 r2, ∃ k, s.HasKeyNamed m.registry.reducers k) ∧
    ((∀ s ∈ present r1 r2, ∀ k, ¬s.HasKeyNamed m.registry.reducers k) →
      m.applies c state1 state2 = false ∧ m'.applies c.flipped state1 state2 = false) := by
  have hbuiltIn : c.operation ≠ .custom := by simp [hoperation]
  have hkeys : ∀ s ∈ present r1 r2, ∃ ks, Judgement.keysOf m.registry.reducers s = .value ks :=
    fun s hs => Judgement.exists_keysOf (hdictionary s hs) (hreducers s hs)
  obtain ⟨v, hv⟩ := Judgement.exists_someKey (c := c) hkeys
  have hjudged : m.context.clauseJudgement c state1 state2 = .value v := by
    rw [Context.clauseJudgement, hresolve, Outcome.andThen_value, Judgement.ofClause, hoperation]
    exact hv
  have hdecided : m.context.IsDecided c state1 state2 ↔
      ∃ s ∈ present r1 r2, ∃ k, s.HasKeyNamed m.registry.reducers k := by
    have hsome : m.context.IsDecided c state1 state2 ↔ v.isSome = true := by
      simp [Context.IsDecided, hjudged, Option.isSome_iff_exists]
    rw [hsome, Judgement.someKey_decidedIff v hv, and_iff_right hdata]
    refine exists_congr fun s => and_congr_right fun hs => ?_
    obtain ⟨ks, hks⟩ := hkeys s hs
    exact Judgement.hasKey_iff (hdictionary s hs) hks
  simp only [applies_eq, hcontext]
  refine ⟨?_, (Context.applies_ne_iff_isDecided hbuiltIn []).trans hdecided, ?_⟩
  · rw [Context.applies_eq_decide_verdict hbuiltIn [] hjudged, hplain, decide_eq_true_iff]
    refine (Judgement.verdict_someKey_eq_true_iff hdata hv).trans ?_
    refine exists_congr fun s => and_congr_right fun hs => ?_
    obtain ⟨ks, hks⟩ := hkeys s hs
    simp only [hks, Outcome.value.injEq, exists_eq_left',
      Judgement.mem_keysOf_iff (hdictionary s hs) hks]
  · intro hnone
    refine Context.applies_of_not_isDecided hbuiltIn [] (mt hdecided.mp ?_)
    rintro ⟨s, hs, k, hkey⟩
    exact hnone s hs k hkey

private def wantsX : Clause := (Clause.ofOperation .containsKey).withData ["x"]

/-- A map without entries is passed over, and the wanted key found in the pairs beside it. -/
theorem applies_containsKey_of_pairs :
    let m := withSettings .default ⟨0, 0, by decide⟩
    let state1 := some (State.ofEntries [])
    let state2 := some (State.pairs [("x", "1")])
    m.applies wantsX state1 state2 = true ∧
      m.applies wantsX state1 state2 ≠ m.applies wantsX.flipped state1 state2 := by
  intro m state1 state2
  have hdictionary : ∀ s ∈ present state1 state2, s.isDictionary = true :=
    Judgement.forall_present (by simp [state1, State.ofEntries, State.isDictionary])
      (by simp [state2, State.isDictionary])
  have hx : ∃ s ∈ present state1 state2, s.HasKeyNamed m.registry.reducers "x" :=
    ⟨.pairs [("x", "1")], by simp [present, state2], .pair List.mem_cons_self⟩
  have hreducers : ∀ s ∈ present state1 state2, s.isBare = true →
      ∀ e ∈ m.registry.reducers, ∃ x, e s = .value x := by
    intro s _ _ e he
    exact absurd he List.not_mem_nil
  obtain ⟨happlies, hone, -⟩ := @applies_containsKey_iff m m wantsX state1 state2 state1 state2 rfl
    rfl (by decide) rfl rfl hdictionary hreducers
  obtain ⟨s, hs, hkey⟩ := hx
  exact ⟨happlies.mpr ⟨s, hs, "x", by decide, hkey⟩, hone.mpr ⟨s, hs, "x", hkey⟩⟩

/-- Neither a clause that looks for a key nor the flipped one applies to an empty map. -/
theorem emptyDictionary_undecided :
    let m := withSettings .default ⟨0, 0, by decide⟩
    let s := State.ofEntries []
    s.isDictionary = true ∧ m.applies wantsX (some s) none = false ∧
      m.applies wantsX.flipped (some s) none = false := by
  intro m s
  exact ⟨rfl, rfl, rfl⟩

end Matcher

end RuleMatching
