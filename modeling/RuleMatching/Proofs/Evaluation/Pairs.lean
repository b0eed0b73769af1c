import RuleMatching.Proofs.Evaluation.CaptureFlag
import RuleMatching.Proofs.State.Reduction

/-!
Looking for a pair of a key and a text in a map.  Where no reducer is registered the pair is found
just if all entries of the map are plain, and the entry for the key is written in this way; so an
entry that is not plain hides all pairs, and further plain entries hide none:
`Matcher.applies_pair_iff`.
-/

set_option autoImplicit false
set_option relaxedAutoImplicit false

namespace RuleMatching

open Judgement (present)

namespace Judgement

variable {reducers : List Reducer} {c : Clause} {states : List State} {s : State}

/-- A search comes to a judgement that holds just if something is found. -/
theorem exists_search_true_iff {look : State → Outcome (Option Finding)} :
    (∃ v, search reducers look states = .value v ∧ verdict v = (true : Bool)) ↔
      ∃ x, firstFinding look states = .value (some x) := by
  constructor
  · rintro ⟨v, hv, htrue⟩
    obtain ⟨found, hfound, hshows⟩ := shows_search hv
    rw [verdict_eq_true_iff, hshows.affirmed_eq, ← Option.isSome_iff_exists,
      Option.isSome_map] at htrue
    obtain ⟨x, rfl⟩ := Option.isSome_iff_exists.mp htrue
    exact ⟨x, hfound⟩
  · rintro ⟨x, hx⟩
    exact ⟨_, by rw [search, hx, Outcome.andThen_value], rfl⟩

/-- In a single state, something is found if looking there finds it. -/
theorem firstFinding_singleton {look : State → Outcome (Option Finding)} {x : Finding} :
    firstFinding look [s] = .value (some x) ↔ look s = .value (some x) := by
  rw [firstFinding]
  rcases look s with (_ | y) | _ <;> simp [firstFinding]

/-- For a single pair, all wanted and some wanted are the same. -/
theorem lookForParts_pair_iff {key text : String} (hoperand : c.operand = .dict [(key, text)])
    (all : Bool) : (∃ x, lookForParts reducers all c s = .value (some x)) ↔
      ∃ x, s.reduce reducers = .value x ∧ (key, text) ∈ x.pairs := by
  simp only [lookForParts, hoperand, pairsOf]
  cases s.reduce reducers with
  | fault => simp
  | value x =>
    by_cases hmem : (key, text) ∈ x.pairs <;> cases all <;> simp [isEnough, hmem]

end Judgement

namespace Matcher

variable {m : Matcher} {c : Clause}

/-- What a clause looks at in two states is a single state. -/
def Sees (m : Matcher) (c : Clause) (state1 state2 : Option State) (s : State) : Prop :=
  ∃ r1 r2, m.context.resolveBoth c state1 state2 = .value (r1, r2) ∧ present r1 r2 = [s]

/-- A clause that looks for parts of a single state applies just if it finds what it looks for. -/
theorem applies_iff_lookForParts
    (hoperation : c.operation = .contains ∨ c.operation = .containsAny)
    (hoperand : (c.data.isEmpty && c.dictData.isEmpty) = false) (hplain : c.invert = false)
    {state1 state2 : Option State} {s : State} (hsees : m.Sees c state1 state2 s) :
    m.applies c state1 state2 = true ↔
      ∃ x, Judgement.lookForParts m.registry.reducers (decide (c.operation = .contains)) c s =
        .value (some x) := by
  have hbuiltIn : c.operation ≠ .custom := by
    rcases hoperation with h | h <;> simp [h]
  obtain ⟨r1, r2, hresolve, hpresent⟩ := hsees
  have hjudged : m.context.clauseJudgement c state1 state2 =
      Judgement.search m.registry.reducers
        (Judgement.lookForParts m.registry.reducers (decide (c.operation = .contains)) c) [s] := by
    rw [Context.clauseJudgement, hresolve, Outcome.andThen_value, Judgement.ofClause, hpresent]
    rcases hoperation with h | h <;> simp [h, Judgement.someParts, hoperand, context]
  rw [applies_eq, Context.applies_eq_true_iff hbuiltIn [], hplain, Context.verdict, hjudged,
    Outcome.andThen_eq_value_iff]
  simp only [Outcome.value.injEq, Bool.not_false, Judgement.exists_search_true_iff,
    Judgement.firstFinding_singleton]

/-- A clause that looks for a pair applies to a state just if the pair is among those that the state
comes down to. -/
theorem applies_pair_iff_reduce (hoperation : c.operation = .contains ∨ c.operation = .containsAny)
    {key text : String} (hoperand : c.operand = .dict [(key, text)]) (hplain : c.invert = false)
    {state1 state2 : Option State} {s : State} (hsees : m.Sees c state1 state2 s) :
    m.applies c state1 state2 = true ↔
      ∃ x, s.reduce m.registry.reducers = .value x ∧ (key, text) ∈ x.pairs := by
  have hdata : (c.data.isEmpty && c.dictData.isEmpty) = false := by
    simp [Clause.dictData, hoperand, Operand.dictData]
  rw [applies_iff_lookForParts hoperation hdata hplain hsees,
    Judgement.lookForParts_pair_iff hoperand]

/-- Where no reducer is registered, a clause that looks for a pair applies to a map just if the map has
it. -/
theorem applies_iff_hasPair (hreducers : m.registry.reducers = [])
    (hoperation : c.operation = .contains ∨ c.operation = .containsAny) {key text : String}
    (hoperand : c.operand = .dict [(key, text)]) (hplain : c.invert = false)
    {state1 state2 : Option State} {keys : NameSet} {entry : String → State}
    (hsees : m.Sees c state1 state2 (.map keys entry)) :
    m.applies c state1 state2 = true ↔ State.HasPair keys entry key text := by
  rw [applies_pair_iff_reduce hoperation hoperand hplain hsees, hreducers,
    State.exists_pairs_reduce_iff]

/-- Let no reducer be registered, and let a clause look for a pair in a map.  It applies just if all
entries of the map are plain and the map has the pair.  If it applies, then it still does when the
map has got further plain entries for new keys. -/
theorem applies_pair_iff (hreducers : m.registry.reducers = [])
    (hoperation : c.operation = .contains ∨ c.operation = .containsAny) {key text : String}
    (hoperand : c.operand = .dict [(key, text)]) (hplain : c.invert = false)
    {state1 state2 : Option State} {keys : NameSet} {entry : String → State}
    (hsees : m.Sees c state1 state2 (.map keys entry)) :
    (m.applies c state1 state2 = true ↔ State.HasPair keys entry key text) ∧
    ∀ keys' entry', State.ExtendsPlainly keys entry keys' entry' →
      ∀ state1' state2', m.Sees c state1' state2' (.map keys' entry') →
        m.applies c state1 state2 = true → m.applies c state1' state2' = true := by
  have hiff := applies_iff_hasPair hreducers hoperation hoperand hplain hsees
  refine ⟨hiff, ?_⟩
  intro keys' entry' hextends state1' state2' hsees' happlies
  have hpair := (hiff.mp happlies).extend hextends
  exact (applies_iff_hasPair hreducers hoperation hoperand hplain hsees').mpr hpair

private def wantsPair (operation : Operation) : Clause :=
  (Clause.ofOperation operation).withDictData [("a", "1")]

private def lone : State := .ofEntries [("a", .ofItems [.text "0", .text "1"])]

private def accompanied (other : State) : State :=
  .ofEntries [("a", .ofItems [.text "0", .text "1"]), ("b", other)]

/-- A pair is found among the items for its key, and still is when there is a number beside them. -/
theorem applies_pair_of_items :
    let m := withSettings .default ⟨0, 0, by decide⟩
    m.applies (wantsPair .contains) (some lone) none = true ∧
      m.applies (wantsPair .contains) (some (accompanied (.int 2))) none = true := by
  intro m
  have hitems : (State.ofItems [.text "0", .text "1"]).IsPlain := by
    show ∀ i < 2, (([.text "0", .text "1"] : List State).getD i .null).isScalar = true
    decide
  obtain ⟨hiff, hextend⟩ := @applies_pair_iff m (wantsPair .contains) rfl (.inl rfl) "a" "1" rfl rfl
    (some lone) none _ _ ⟨_, _, rfl, rfl⟩
  have hlone : m.applies (wantsPair .contains) (some lone) none = true := by
    refine hiff.mpr ⟨?_, by simp, 1, by decide, rfl⟩
    intro k hk
    obtain rfl : k = "a" := by simpa using hk
    exact hitems
  refine ⟨hlone, hextend _ _ ⟨?_, ?_⟩ _ _ ⟨_, _, rfl, rfl⟩ hlone⟩
  · intro k hk
    obtain rfl : k = "a" := by simpa using hk
    exact ⟨by simp, rfl⟩
  · intro k hk hnew
    have hk : k = "a" ∨ k = "b" := by simpa using hk
    have hnew : k ≠ "a" := by simpa using hnew
    obtain rfl := hk.resolve_left hnew
    exact rfl

/-- Null under another key hides a pair. -/
theorem pair_hidden_by_null :
    let m := withSettings .default ⟨0, 0, by decide⟩
    m.applies (wantsPair .containsAny) (some lone) none = true ∧
      m.applies (wantsPair .containsAny) (some (accompanied .null)) none = false ∧
      m.applies (wantsPair .contains) (some lone) none = true ∧
      m.applies (wantsPair .contains) (some (accompanied .null)) none = false := by
  decide +kernel

end Matcher

end RuleMatching
