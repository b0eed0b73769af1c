import RuleMatching.Proofs.Judgement.Decision

/-!
What shows a judgement.  If an operation that looks for texts or keys holds, what shows it are those of
the first state that has some that pass, in their order; if it does not, all that were looked at.  An
operation on integers or instants is shown by the first that passes, or by one that does not:
`TextEvidence` and `ValueEvidence`, with one lemma for each operation.
-/

set_option autoImplicit false
set_option relaxedAutoImplicit false

namespace RuleMatching

namespace Clause

/-- Whether a text or key passes the test of a clause that looks for some. -/
def acceptsText (c : Clause) (t : String) : Bool :=
  match c.operation with
  | .equals | .containsKey => t ∈ c.data
  | .startsWith => ∃ d ∈ c.data, d.toList <+: t.toList
  | .endsWith => ∃ d ∈ c.data, d.toList <:+ t.toList
  | _ => false

/-- Whether an integer passes the test of a clause: it compares with the first of the data. -/
def acceptsInteger (c : Clause) (i : Int64) : Bool :=
  match c.operation with
  | .lessThan => ∃ j ∈ c.data.head?.bind Judgement.integer?, i < j
  | .greaterThan => ∃ j ∈ c.data.head?.bind Judgement.integer?, j < i
  | _ => false

/-- Whether an instant passes the test of a clause: it compares with one of the data. -/
def acceptsInstant (c : Clause) (t : Instant) : Bool :=
  match c.operation with
  | .isBefore => ∃ u ∈ c.data.filterMap Instant.read?, t.isBefore u
  | .isAfter => ∃ u ∈ c.data.filterMap Instant.read?, u.isBefore t
  | _ => false

end Clause

namespace Judgement

/-- An element is the first of a list with a property. -/
def IsFirst {α : Type} (p : α → Prop) (as : List α) (a : α) : Prop :=
  ∃ front back, as = front ++ a :: back ∧ p a ∧ ∀ b ∈ front, ¬p b

theorem isFirst_of_find? {α : Type} {test : α → Bool} {as : List α} {a : α}
    (h : as.find? test = some a) : IsFirst (fun a => test a = true) as a := by
  obtain ⟨hpasses, front, back, has, hfront⟩ := List.find?_eq_some_iff_append.mp h
  exact ⟨front, back, has, hpasses, fun b hb => by simpa using hfront b hb⟩

/-- The texts read from a state in which some of them pass a test, with none that passes in the states
in front of it. -/
def FirstWith (read : State → Outcome (List String)) (test : String → Bool) (states : List State)
    (s : State) (ts : List String) : Prop :=
  read s = .value ts ∧
    IsFirst (fun s => ∃ ts, read s = .value ts ∧ ∃ t ∈ ts, test t = true) states s

/-- Texts that pass are shown as a list, or as a scalar if the state is a text, which then is the only
one. -/
inductive ShownAs : State → List String → Finding → Prop
  | scalar (t : String) : ShownAs (.text t) [t] (.scalar t)
  | list {s : State} {ts : List String} (h : ∀ t, s ≠ .text t) : ShownAs s ts (.list ts)

/-- An operation that looks for integers or instants is shown by the first that passes if it holds, and
by one of them if it does not, when none of them passes. -/
def ValueEvidence {α : Type} (test : α → Bool) (find : α → Finding) (as : List α) (holds : Bool)
    (result : Option Finding) : Prop :=
  ∃ a, result = some (find a) ∧
    (holds = true → IsFirst (fun a => test a = true) as a) ∧
    (holds = false → a ∈ as ∧ ∀ b ∈ as, test b = false)

/-- An operation that looks for texts is shown by those that pass in the first state that has some if
it holds, and by the texts of all states if it does not, when none of them passes. -/
structure TextEvidence (read : State → Outcome (List String)) (test : String → Bool)
    (shown : State → List String → Finding → Prop) (states : List State) (holds : Bool)
    (result : Option Finding) : Prop where
  of_holds : holds = true → ∃ s ts x, FirstWith read test states s ts ∧
    shown s (ts.filter test) x ∧ result = some x
  of_not_holds : holds = false → ∃ tss, Outcome.forEach read states = .value tss ∧
    result = some (.list tss.flatten) ∧ ∀ t ∈ tss.flatten, test t = false

variable {reducers : List Reducer} {states : List State} {c : Clause} {v : Judgement}

/-! ### Searching -/

theorem exists_isFirst_of_firstFinding {look : State → Outcome (Option Finding)} {x : Finding}
    (h : firstFinding look states = .value (some x)) :
    ∃ s, look s = .value (some x) ∧
      IsFirst (fun s => ∃ x, look s = .value (some x)) states s := by
  induction states with
  | nil => cases h
  | cons s ss ih =>
    rw [firstFinding] at h
    obtain ⟨y, hy, h⟩ := Outcome.andThen_eq_value_iff.mp h
    cases y with
    | some y =>
      obtain rfl := Option.some.inj (Outcome.value.inj h)
      exact ⟨s, hy, [], ss, rfl, ⟨y, hy⟩, by simp⟩
    | none =>
      obtain ⟨t, ht, front, back, hss, hfound, hfront⟩ := ih h
      refine ⟨t, ht, s :: front, back, by rw [hss, List.cons_append], hfound, ?_⟩
      refine List.forall_mem_cons.mpr ⟨?_, hfront⟩
      rintro ⟨z, hz⟩
      cases hy.symm.trans hz

theorem eq_none_of_firstFinding {look : State → Outcome (Option Finding)}
    (h : firstFinding look states = .value none) : ∀ s ∈ states, look s = .value none := by
  induction states with
  | nil => simp
  | cons s ss ih =>
    rw [firstFinding] at h
    obtain ⟨y, hy, h⟩ := Outcome.andThen_eq_value_iff.mp h
    cases y with
    | some y => cases h
    | none => exact List.forall_mem_cons.mpr ⟨hy, ih h⟩

/-- Something is found in some state just if looking at one of them finds it. -/
theorem isSome_firstFinding_iff {look : State → Outcome (Option Finding)} {y : Option Finding}
    (h : firstFinding look states = .value y) :
    y.isSome = true ↔ ∃ s ∈ states, ∃ x, look s = .value (some x) := by
  cases y with
  | some x =>
    obtain ⟨s, hs, front, back, rfl, -, -⟩ := exists_isFirst_of_firstFinding h
    exact iff_of_true rfl ⟨s, by simp, x, hs⟩
  | none =>
    refine iff_of_false (by simp) ?_
    rintro ⟨s, hs, x, hx⟩
    rw [eq_none_of_firstFinding h s hs] at hx
    cases hx

/-- A search that holds is shown by what is found in the first state in which something is, and one
that does not by all texts. -/
theorem search_eq_some {look : State → Outcome (Option Finding)}
    (h : search reducers look states = .value (some v)) :
    (v.holds = true ∧ ∃ s x, look s = .value (some x) ∧
      IsFirst (fun s => ∃ x, look s = .value (some x)) states s ∧ v.finding = some x) ∨
    (v.holds = false ∧ (∀ s ∈ states, look s = .value none) ∧
      ∃ ts, allTexts reducers states = .value ts ∧ v.finding = some (.list ts)) := by
  obtain ⟨x, hx, h⟩ := Outcome.andThen_eq_value_iff.mp h
  cases x with
  | some x =>
    obtain rfl := Option.some.inj (Outcome.value.inj h)
    obtain ⟨s, hs, hfirst⟩ := exists_isFirst_of_firstFinding hx
    exact .inl ⟨rfl, s, x, hs, hfirst, rfl⟩
  | none =>
    obtain ⟨ts, hts, h⟩ := Outcome.andThen_eq_value_iff.mp h
    obtain rfl := Option.some.inj (Outcome.value.inj h)
    exact .inr ⟨rfl, eq_none_of_firstFinding hx, ts, hts, rfl⟩

/-! ### Texts -/

theorem isSome_textFinding (s : State) (ts : List String) :
    (textFinding s ts).isSome = true ↔ ts ≠ [] := by
  cases ts with
  | nil => simp [textFinding]
  | cons t ts => cases s <;> simp [textFinding]

theorem lookForTexts_eq_none_iff {test : String → Bool} {s : State} :
    lookForTexts reducers test s = .value none ↔
      ∃ ts, textsOf reducers s = .value ts ∧ ∀ t ∈ ts, test t = false := by
  rw [lookForTexts, Outcome.andThen_eq_value_iff]
  refine exists_congr fun ts => and_congr_right fun _ => ?_
  rw [Outcome.value.injEq, ← Option.not_isSome_iff_eq_none, isSome_textFinding, not_not,
    List.filter_eq_nil_iff]
  simp

/-- Something is found just if some of the texts pass. -/
theorem exists_lookForTexts_iff {test : String → Bool} {s : State} :
    (∃ x, lookForTexts reducers test s = .value (some x)) ↔
      ∃ ts, textsOf reducers s = .value ts ∧ ∃ t ∈ ts, test t = true := by
  simp only [lookForTexts, Outcome.andThen_eq_value_iff, Outcome.value.injEq]
  rw [exists_comm]
  refine exists_congr fun ts => ?_
  rw [exists_and_left, ← Option.isSome_iff_exists, isSome_textFinding, ne_eq,
    List.filter_eq_nil_iff]
  simp

theorem shownAs_of_lookForTexts {test : String → Bool} {s : State} {x : Finding}
    (h : lookForTexts reducers test s = .value (some x)) :
    ∃ ts, textsOf reducers s = .value ts ∧ ShownAs s (ts.filter test) x := by
  obtain ⟨ts, hts, h⟩ := Outcome.andThen_eq_value_iff.mp h
  have h := Outcome.value.inj h
  refine ⟨ts, hts, ?_⟩
  cases s with
  | text t =>
    obtain rfl : [t] = ts := Outcome.value.inj hts
    cases htest : test t with
    | true =>
      rw [List.filter_cons_of_pos htest] at h ⊢
      obtain rfl := Option.some.inj h
      exact .scalar t
    | false => simp [htest, textFinding] at h
  | _ =>
    cases hits : ts.filter test with
    | nil => simp [hits, textFinding] at h
    | cons t us =>
      rw [hits] at h
      obtain rfl := Option.some.inj h
      exact .list (by simp)

theorem textEvidence_someText {test : String → Bool}
    (h : someText reducers test c states = .value (some v)) :
    TextEvidence (textsOf reducers) test ShownAs states v.holds v.finding := by
  unfold someText at h
  split at h
  · cases h
  rcases search_eq_some h with
    ⟨hholds, s, x, hx, hfirst, hfinding⟩ | ⟨hholds, hnone, ts, hts, hfinding⟩
  · refine ⟨fun _ => ?_, by simp [hholds]⟩
    obtain ⟨ts, hts, hshown⟩ := shownAs_of_lookForTexts hx
    simp only [exists_lookForTexts_iff] at hfirst
    exact ⟨s, ts, x, ⟨hts, hfirst⟩, hshown, hfinding⟩
  · refine ⟨by simp [hholds], fun _ => ?_⟩
    obtain ⟨tss, htss, hts⟩ := Outcome.andThen_eq_value_iff.mp hts
    obtain rfl := Outcome.value.inj hts
    refine ⟨tss, htss, hfinding, ?_⟩
    intro t ht
    obtain ⟨us, hus, ht⟩ := List.mem_flatten.mp ht
    obtain ⟨s, hs, hus⟩ := Outcome.exists_of_mem_forEach htss hus
    obtain ⟨us', hus', hfails⟩ := lookForTexts_eq_none_iff.mp (hnone s hs)
    obtain rfl := Outcome.value.inj (hus.symm.trans hus')
    exact hfails t ht

/-! ### Keys -/

/-- What is read from the first state whose texts have a property. -/
theorem exists_isFirst_of_forEach {read : State → Outcome (List String)} {tss : List (List String)}
    (h : Outcome.forEach read states = .value tss) {p : List String → Prop} {ts : List String}
    (hfirst : IsFirst p tss ts) :
    ∃ s, read s = .value ts ∧ IsFirst (fun s => ∃ ts, read s = .value ts ∧ p ts) states s := by
  obtain ⟨front, back, rfl, hp, hfront⟩ := hfirst
  induction front generalizing states with
  | nil =>
    cases states with
    | nil => cases h
    | cons s ss =>
      rw [Outcome.forEach] at h
      obtain ⟨us, hus, h⟩ := Outcome.andThen_eq_value_iff.mp h
      obtain ⟨uss, -, h⟩ := Outcome.andThen_eq_value_iff.mp h
      obtain ⟨rfl, -⟩ := List.cons.inj (Outcome.value.inj h)
      exact ⟨s, hus, [], ss, rfl, ⟨us, hus, hp⟩, by simp⟩
  | cons fs front ih =>
    obtain ⟨hfs, hrest⟩ := List.forall_mem_cons.mp hfront
    cases states with
    | nil => cases h
    | cons s ss =>
      rw [Outcome.forEach] at h
      obtain ⟨us, hus, h⟩ := Outcome.andThen_eq_value_iff.mp h
      obtain ⟨uss, huss, h⟩ := Outcome.andThen_eq_value_iff.mp h
      obtain ⟨rfl, rfl⟩ := List.cons.inj (Outcome.value.inj h)
      obtain ⟨t, ht, front', back', hss, hfound, hfront'⟩ := ih huss hrest
      refine ⟨t, ht, s :: front', back', by rw [hss, List.cons_append], hfound, ?_⟩
      refine List.forall_mem_cons.mpr ⟨?_, hfront'⟩
      rintro ⟨us', hus', hp'⟩
      obtain rfl := Outcome.value.inj (hus.symm.trans hus')
      exact hfs hp'

theorem textEvidence_someKey (h : someKey reducers c states = .value (some v)) :
    TextEvidence (keysOf reducers) c.data.contains (fun _ ks x => x = .list ks) states
      v.holds v.finding := by
  rw [someKey] at h
  split at h
  · cases h
  obtain ⟨keyed, hkeyed, h⟩ := Outcome.andThen_eq_value_iff.mp h
  split at h
  · cases h
  split at h
  · rename_i hits hfound
    obtain rfl := Option.some.inj (Outcome.value.inj h)
    refine ⟨fun _ => ?_, by simp⟩
    rw [List.find?_map, Option.map_eq_some_iff] at hfound
    obtain ⟨ks, hks, rfl⟩ := hfound
    have hfirst := isFirst_of_find? hks
    obtain ⟨s, hs, hfirst⟩ := exists_isFirst_of_forEach hkeyed hfirst
    refine ⟨s, ks, _, ⟨hs, ?_⟩, rfl, rfl⟩
    simpa [List.filter_eq_nil_iff] using hfirst
  · rename_i hnone
    obtain rfl := Option.some.inj (Outcome.value.inj h)
    refine ⟨by simp, fun _ => ⟨keyed, hkeyed, rfl, ?_⟩⟩
    intro k hk
    obtain ⟨ks, hks, hk⟩ := List.mem_flatten.mp hk
    have hempty := List.find?_eq_none.mp hnone _ (List.mem_map_of_mem hks)
    simp only [Bool.not_eq_true', Bool.not_eq_false, List.isEmpty_iff,
      List.filter_eq_nil_iff] at hempty
    simpa using hempty k hk

/-! ### Values -/

theorem valueEvidence_firstPassing {α : Type} {test : α → Bool} {find : α → Finding} {as : List α}
    (h : firstPassing test find as = some v) : ValueEvidence test find as v.holds v.finding := by
  cases as with
  | nil => cases h
  | cons a as =>
    rw [firstPassing] at h
    split at h
    · rename_i b hb
      obtain rfl := Option.some.inj h
      exact ⟨b, rfl, fun _ => isFirst_of_find? hb, by simp⟩
    · rename_i hnone
      obtain rfl := Option.some.inj h
      refine ⟨a, rfl, by simp, fun _ => ⟨List.mem_cons_self, fun b hb => ?_⟩⟩
      simpa using List.find?_eq_none.mp hnone b hb

/-! ### Clauses -/

theorem acceptsText_of_equals (hoperation : c.operation = .equals ∨ c.operation = .containsKey) :
    c.acceptsText = c.data.contains := by
  funext t
  rcases hoperation with hoperation | hoperation <;> simp [Clause.acceptsText, hoperation]

theorem acceptsText_of_startsWith (hoperation : c.operation = .startsWith) :
    c.acceptsText = fun t => c.data.any (Text.startsWith t) := by
  funext t
  rw [Bool.eq_iff_iff]
  simp [Clause.acceptsText, hoperation, Text.startsWith]

theorem acceptsText_of_endsWith (hoperation : c.operation = .endsWith) :
    c.acceptsText = fun t => c.data.any (Text.endsWith t) := by
  funext t
  rw [Bool.eq_iff_iff]
  simp [Clause.acceptsText, hoperation, Text.endsWith]

theorem acceptsInteger_of_threshold {j : Int64} (hj : c.data.head?.bind integer? = some j) :
    (c.operation = .lessThan → c.acceptsInteger = fun i => decide (i < j)) ∧
      (c.operation = .greaterThan → c.acceptsInteger = fun i => decide (j < i)) := by
  constructor <;> intro hoperation <;> funext i <;> simp [Clause.acceptsInteger, hoperation, hj]

theorem acceptsInstant_of_isBefore (hoperation : c.operation = .isBefore) :
    c.acceptsInstant = fun t => (c.data.filterMap Instant.read?).any t.isBefore := by
  funext t
  rw [Bool.eq_iff_iff]
  simp only [Clause.acceptsInstant, hoperation, decide_eq_true_eq, List.any_eq_true]

theorem acceptsInstant_of_isAfter (hoperation : c.operation = .isAfter) :
    c.acceptsInstant = fun t => (c.data.filterMap Instant.read?).any fun u => u.isBefore t := by
  funext t
  rw [Bool.eq_iff_iff]
  simp only [Clause.acceptsInstant, hoperation, decide_eq_true_eq, List.any_eq_true]

theorem valueEvidence_someInteger {compare : Int64 → Int64 → Bool}
    (hcompare : ∀ j, c.data.head?.bind integer? = some j →
      c.acceptsInteger = fun i => compare i j)
    (h : someInteger reducers compare c states = .value (some v)) :
    ∃ ts, allTexts reducers states = .value ts ∧
      ValueEvidence c.acceptsInteger .int (ts.filterMap integer?) v.holds
        v.finding := by
  rw [someInteger] at h
  split at h
  · cases h
  · rename_i j hj
    obtain ⟨ts, hts, h⟩ := Outcome.andThen_eq_value_iff.mp h
    rw [hcompare j hj]
    exact ⟨ts, hts, valueEvidence_firstPassing (Outcome.value.inj h)⟩

theorem valueEvidence_someInstant {compare : Instant → Instant → Bool}
    (h : someInstant compare c states = some v) :
    ValueEvidence (fun t => (c.data.filterMap Instant.read?).any (compare t)) .instant
      (states.filterMap State.instant?) v.holds v.finding := by
  unfold someInstant at h
  split at h
  · cases h
  · exact valueEvidence_firstPassing h

section

variable {now : Instant} {pattern : Option Pattern} {state1 state2 : Option State}
  (h : ofClause reducers now pattern c state1 state2 = .value (some v))
include h

theorem textEvidence_ofClause
    (hoperation : c.operation = .equals ∨ c.operation = .startsWith ∨ c.operation = .endsWith) :
    TextEvidence (textsOf reducers) c.acceptsText ShownAs (present state1 state2) v.holds
      v.finding := by
  rcases hoperation with hoperation | hoperation | hoperation <;> rw [ofClause, hoperation] at h
  · rw [acceptsText_of_equals (.inl hoperation)]
    exact textEvidence_someText h
  · rw [acceptsText_of_startsWith hoperation]
    exact textEvidence_someText h
  · rw [acceptsText_of_endsWith hoperation]
    exact textEvidence_someText h

theorem keyEvidence_ofClause (hoperation : c.operation = .containsKey) :
    TextEvidence (keysOf reducers) c.acceptsText (fun _ ks x => x = .list ks)
      (present state1 state2) v.holds v.finding := by
  rw [ofClause, hoperation] at h
  rw [acceptsText_of_equals (.inr hoperation)]
  exact textEvidence_someKey h

theorem integerEvidence_ofClause
    (hoperation : c.operation = .lessThan ∨ c.operation = .greaterThan) :
    ∃ ts, allTexts reducers (present state1 state2) = .value ts ∧
      ValueEvidence c.acceptsInteger .int (ts.filterMap integer?) v.holds
        v.finding := by
  rcases hoperation with hoperation | hoperation <;> rw [ofClause, hoperation] at h
  · exact valueEvidence_someInteger
      (fun j hj => (acceptsInteger_of_threshold hj).1 hoperation) h
  · exact valueEvidence_someInteger
      (fun j hj => (acceptsInteger_of_threshold hj).2 hoperation) h

theorem instantEvidence_ofClause
    (hoperation : c.operation = .isBefore ∨ c.operation = .isAfter) :
    ValueEvidence c.acceptsInstant .instant ((present state1 state2).filterMap State.instant?)
      v.holds v.finding := by
  rcases hoperation with hoperation | hoperation <;> rw [ofClause, hoperation] at h
  · rw [acceptsInstant_of_isBefore hoperation]
    exact valueEvidence_someInstant (Outcome.value.inj h)
  · rw [acceptsInstant_of_isAfter hoperation]
    exact valueEvidence_someInstant (Outcome.value.inj h)

end

end Judgement

end RuleMatching
