import Mathlib.Data.List.Nodup
import RuleMatching.Proofs.Matcher.Faults
import RuleMatching.Proofs.Matcher.Shares

/-!
Evaluating many rules.  Every rule comes to what it comes to alone, so the results are those of the single
rules in their order.  Neither the number of workers, nor the order in which the rules are evaluated
against the memories that the workers share, nor another rule of the list has any influence:
`batch_eq_each`.
-/

set_option autoImplicit false
set_option relaxedAutoImplicit false

namespace RuleMatching.Matcher

variable {α : Type}

/-- What is read off the evaluation of each rule is fixed. -/
theorem gives_of_evaluate (m : Matcher) (state1 state2 : Option State)
    (read : Rule → Evaluation → Option α) :
    Gives (always fun m r =>
        ((m.evaluate r state1 state2).1, read r (m.evaluate r state1 state2).2)) m
      fun r => .value (read r (m.context.evaluationOf m.mode r state1 state2)) := by
  intro m' hm r
  refine ⟨hm.trans (m'.eqUpToMemory_evaluate r state1 state2), ?_⟩
  simp only [always, evaluate_snd, hm.context, hm.mode]

section

variable (m : Matcher) (available : Nat) (rules : List Rule) (state1 state2 : Option State)

/-- What a rule gives, if it matches. -/
def resultOf (x : Rule → α) (r : Rule) : Option α :=
  if (m.context.evaluationOf m.mode r state1 state2).matched then some (x r) else none

theorem resultOf_eq_some_iff {x : Rule → α} {r : Rule} {y : α} :
    m.resultOf state1 state2 x r = some y ↔
      (m.context.evaluationOf m.mode r state1 state2).matched = true ∧ x r = y := by
  rw [resultOf, Option.ite_none_right_eq_some, Option.some.injEq]

/-- Only what answers are given with, and how rules are evaluated, decides what a rule gives. -/
theorem resultOf_congr {m m' : Matcher} (hcontext : m'.context = m.context)
    (hmode : m'.mode = m.mode) (x : Rule → α) :
    m'.resultOf state1 state2 x = m.resultOf state1 state2 x := by
  funext r
  rw [resultOf, resultOf, hcontext, hmode]

theorem gives_ifMatch (x : Rule → α) :
    Gives (always (ifMatch state1 state2 x)) m fun r => .value (m.resultOf state1 state2 x r) :=
  m.gives_of_evaluate state1 state2 fun r ev => if ev.matched then some (x r) else none

theorem gives_captures? :
    Gives (always fun m r => m.captures? r state1 state2) m fun r =>
      .value (m.context.evaluationOf m.mode r state1 state2).captures? :=
  m.gives_of_evaluate state1 state2 fun _ ev => ev.captures?

theorem matching_snd :
    (m.matching available rules state1 state2).2 =
      (placedResults (m.resultOf state1 state2 id) (placed rules)).map (·.1) := by
  rw [← ((m.gives_ifMatch state1 state2 id).evaluateEach available rules).2]
  rfl

theorem captures_snd :
    (m.captures available rules state1 state2).2 =
      placedResults (fun r => (m.context.evaluationOf m.mode r state1 state2).captures?)
        (placed rules) := by
  rw [← ((m.gives_captures? state1 state2).evaluateEach available rules).2]
  rfl

theorem tags_snd :
    (m.tags available rules state1 state2).2 =
      .ofList ((placedResults (m.resultOf state1 state2 (·.tags)) (placed rules)).flatMap
        fun p => p.2.names) := by
  rw [← ((m.gives_ifMatch state1 state2 Rule.tags).evaluateEach available rules).2]
  rfl

variable {m available rules state1 state2}

theorem mem_matching_iff {i : Nat} :
    i ∈ (m.matching available rules state1 state2).2 ↔
      ∃ r, rules[i]? = some r ∧ (m.context.evaluationOf m.mode r state1 state2).matched = true := by
  rw [matching_snd, List.mem_map]
  constructor
  · rintro ⟨⟨i, r⟩, hp, rfl⟩
    obtain ⟨r', hr, hmatched⟩ := mem_placedResults.mp hp
    exact ⟨r', mem_placed.mp hr, ((m.resultOf_eq_some_iff state1 state2).mp hmatched).1⟩
  · rintro ⟨r, hr, hmatched⟩
    have hresult := (m.resultOf_eq_some_iff state1 state2 (x := id)).mpr ⟨hmatched, rfl⟩
    exact ⟨(i, r), mem_placedResults.mpr ⟨r, mem_placed.mpr hr, hresult⟩, rfl⟩

theorem mem_captures_iff {i : Nat} {found : List PlacedCapture} :
    (i, found) ∈ (m.captures available rules state1 state2).2 ↔
      ∃ r, rules[i]? = some r ∧
        (m.context.evaluationOf m.mode r state1 state2).captures? = some found := by
  simp only [captures_snd, mem_placedResults, mem_placed]

theorem mem_tags_iff {tag : String} :
    tag ∈ (m.tags available rules state1 state2).2 ↔
      ∃ r ∈ rules, (m.context.evaluationOf m.mode r state1 state2).matched = true ∧
        tag ∈ r.tags := by
  rw [tags_snd, NameSet.mem_ofList, List.mem_flatMap]
  constructor
  · rintro ⟨⟨i, tags⟩, hp, htag⟩
    obtain ⟨r, hr, hresult⟩ := mem_placedResults.mp hp
    obtain ⟨hmatched, rfl⟩ := (m.resultOf_eq_some_iff state1 state2).mp hresult
    exact ⟨r, List.mem_of_getElem? (mem_placed.mp hr), hmatched, htag⟩
  · rintro ⟨r, hr, hmatched, htag⟩
    obtain ⟨i, hi⟩ := List.mem_iff_getElem?.mp hr
    have hresult := (m.resultOf_eq_some_iff state1 state2 (x := Rule.tags)).mpr ⟨hmatched, rfl⟩
    exact ⟨(i, r.tags), mem_placedResults.mpr ⟨r, mem_placed.mpr hi, hresult⟩, htag⟩

/-- The rules that match, by their places. -/
theorem matching_eq_filter :
    (m.matching available rules state1 state2).2 =
      (rules.zipIdx.filter fun p =>
        (m.context.evaluationOf m.mode p.1 state1 state2).matched).map (·.2) := by
  rw [matching_snd, placedResults, placed, List.filterMap_map, List.map_filterMap,
    ← List.filterMap_eq_map, ← List.filterMap_eq_filter, List.filterMap_filterMap]
  congr 1
  funext p
  simp only [Function.comp_apply, resultOf, Option.guard]
  split <;> rfl

/-- There are captures at the places of the rules that match. -/
theorem map_captures_eq_matching :
    (m.captures available rules state1 state2).2.map (·.1) =
      (m.matching available rules state1 state2).2 := by
  rw [captures_snd, matching_snd, placedResults, placedResults, List.map_filterMap,
    List.map_filterMap]
  congr 1
  funext p
  simp only [resultOf, Evaluation.captures?]
  split <;> rfl

theorem captures_eq_filterMap :
    (m.captures available rules state1 state2).2 =
      rules.zipIdx.filterMap fun p =>
        (m.context.evaluationOf m.mode p.1 state1 state2).captures?.map fun found =>
          (p.2, found) := by
  rw [captures_snd, placedResults, placed, List.filterMap_map]
  rfl

/-- Replacing a rule changes nothing at the other places. -/
theorem mem_matching_set_iff {i j : Nat} (hj : j ≠ i) (r : Rule) :
    j ∈ (m.matching available (rules.set i r) state1 state2).2 ↔
      j ∈ (m.matching available rules state1 state2).2 := by
  rw [mem_matching_iff, mem_matching_iff, List.getElem?_set_ne hj.symm]

theorem mem_captures_set_iff {i j : Nat} (hj : j ≠ i) (r : Rule) (found : List PlacedCapture) :
    (j, found) ∈ (m.captures available (rules.set i r) state1 state2).2 ↔
      (j, found) ∈ (m.captures available rules state1 state2).2 := by
  rw [mem_captures_iff, mem_captures_iff, List.getElem?_set_ne hj.symm]

theorem mem_set_iff {i : Nat} (hi : i < rules.length) (r x : Rule) :
    x ∈ rules.set i r ↔ x ∈ rules.eraseIdx i ∨ x = r := by
  rw [List.mem_eraseIdx_iff_getElem?, List.mem_iff_getElem?]
  constructor
  · rintro ⟨j, hj⟩
    by_cases hij : j = i
    · subst hij
      rw [List.getElem?_set_self hi] at hj
      exact .inr (Option.some.inj hj).symm
    · rw [List.getElem?_set_ne (Ne.symm hij)] at hj
      exact .inl ⟨j, hij, hj⟩
  · rintro (⟨j, hij, hj⟩ | rfl)
    · exact ⟨j, by rw [List.getElem?_set_ne (Ne.symm hij), hj]⟩
    · exact ⟨i, List.getElem?_set_self hi⟩

/-- A rule put in the place of another one adds its own tags to those of the others, if it
matches. -/
theorem mem_tags_set_iff {i : Nat} (hi : i < rules.length) (r : Rule) (tag : String) :
    tag ∈ (m.tags available (rules.set i r) state1 state2).2 ↔
      tag ∈ (m.tags available (rules.eraseIdx i) state1 state2).2 ∨
        (m.context.evaluationOf m.mode r state1 state2).matched = true ∧ tag ∈ r.tags := by
  simp only [mem_tags_iff, mem_set_iff hi, or_and_right, exists_or, exists_eq_left]

end

/-- There are captures of a rule just if it matches. -/
theorem isSome_captures? (m : Matcher) (r : Rule) (state1 state2 : Option State) :
    (m.captures? r state1 state2).2.isSome = (m.isMatch r state1 state2).2 := by
  rw [captures?_snd, isMatch_snd, Evaluation.captures?]
  cases (m.context.evaluationOf m.mode r state1 state2).matched <;> rfl

/-! ### Faults that get out -/

section

variable (m : Matcher) (log : Log) (state1 state2 : Option State)

/-- What is read off the evaluation of a rule, if no fault gets out. -/
def outcomeFor (read : Rule → Evaluation → Option α) (r : Rule) : Outcome (Option α) :=
  (m.context.outcomeOf log m.mode r state1 state2).andThen fun ev => .value (read r ev)

theorem gives_of_evaluateLogged (read : Rule → Evaluation → Option α) :
    Gives (fun m r => ((m.evaluateLogged log r state1 state2).1,
        (m.evaluateLogged log r state1 state2).2.andThen fun ev => .value (read r ev))) m
      (m.outcomeFor log state1 state2 read) := by
  intro m' hm r
  refine ⟨hm.trans (m'.eqUpToMemory_evaluateLogged log r state1 state2), ?_⟩
  simp only [evaluateLogged_snd, hm.context, hm.mode, outcomeFor]

theorem gives_ifMatchLogged (x : Rule → α) :
    Gives (ifMatchLogged log state1 state2 x) m
      (m.outcomeFor log state1 state2 fun r ev => if ev.matched then some (x r) else none) := by
  intro m' hm r
  obtain ⟨hmemory, hresult⟩ := m.gives_of_evaluateLogged log state1 state2
    (fun r ev => if ev.matched then some (x r) else none) m' hm r
  refine ⟨hmemory, ?_⟩
  rw [← hresult]
  simp only [ifMatchLogged, isMatchLogged]
  rcases m'.evaluateLogged log r state1 state2 with ⟨m₁, ev | _⟩ <;> rfl

theorem gives_capturesLogged? :
    Gives (fun m r => m.capturesLogged? log r state1 state2) m
      (m.outcomeFor log state1 state2 fun _ ev => ev.captures?) :=
  m.gives_of_evaluateLogged log state1 state2 fun _ ev => ev.captures?

theorem outcomeFor_eq_fault_iff (read : Rule → Evaluation → Option α) (r : Rule) :
    m.outcomeFor log state1 state2 read r = .fault ↔
      (m.evaluateLogged log r state1 state2).2 = .fault := by
  rw [outcomeFor, evaluateLogged_snd]
  cases m.context.outcomeOf log m.mode r state1 state2 <;> simp

theorem outcomeFor_ifMatch_iff {x : Rule → α} {r : Rule} {y : α} :
    m.outcomeFor log state1 state2 (fun r ev => if ev.matched then some (x r) else none) r =
        .value (some y) ↔
      (m.isMatchLogged log r state1 state2).2 = .value true ∧ x r = y := by
  rw [outcomeFor, isMatchLogged_snd]
  cases m.context.outcomeOf log m.mode r state1 state2 <;> simp

/-- A fault that gets out of a rule gets out of the batch just if there is a single worker. -/
theorem matchingLogged_eq_fault_iff (available : Nat) (rules : List Rule) :
    (m.matchingLogged log available rules state1 state2).2 = .fault ↔
      min (m.settings.workerCount available) rules.length ≤ 1 ∧
        ∃ r ∈ rules, (m.evaluateLogged log r state1 state2).2 = .fault := by
  have hall := (m.gives_ifMatchLogged log state1 state2 id).evaluateAll_eq_fault_iff available rules
  simp only [outcomeFor_eq_fault_iff, exists_mem_placed
    (P := fun r => (m.evaluateLogged log r state1 state2).2 = .fault)] at hall
  rw [← hall, matchingLogged]
  rcases evaluateAll (ifMatchLogged log state1 state2 id) available m rules with ⟨m', found | _⟩ <;>
    simp

/-- Among several workers the rules that match are found, but for those of the shares that a fault
gets out of. -/
theorem matchingLogged_of_workers {available : Nat} {rules : List Rule}
    (hworkers : 1 < min (m.settings.workerCount available) rules.length) :
    ∃ places, (m.matchingLogged log available rules state1 state2).2 = .value places ∧
      ∀ i, i ∈ places ↔
        (∃ r, rules[i]? = some r ∧ (m.isMatchLogged log r state1 state2).2 = .value true) ∧
          ∀ p ∈ placed rules,
            p.1 / shareLength (m.settings.workerCount available) rules.length =
                i / shareLength (m.settings.workerCount available) rules.length →
              (m.evaluateLogged log p.2 state1 state2).2 ≠ .fault := by
  obtain ⟨found, hfound, hmem⟩ :=
    (m.gives_ifMatchLogged log state1 state2 id).evaluateAll_of_workers hworkers
  refine ⟨found.map (·.1), ?_, fun i => ?_⟩
  · exact congrArg (·.andThen fun found => .value (found.map (·.1))) hfound
  · simp only [List.mem_map, Prod.exists, exists_and_right, exists_eq_right, hmem,
      outcomeFor_ifMatch_iff, ne_eq, outcomeFor_eq_fault_iff]
    constructor
    · rintro ⟨⟨_, r, hr, hmatch, -⟩, hends⟩
      exact ⟨⟨r, hr, hmatch⟩, hends⟩
    · rintro ⟨⟨r, hr, hmatch⟩, hends⟩
      exact ⟨⟨r, r, hr, hmatch, rfl⟩, hends⟩

variable {m log state1 state2} {rules : List Rule}
  (hends : ∀ r ∈ rules, (m.evaluateLogged log r state1 state2).2 ≠ .fault)
include hends

theorem outcomeFor_of_ends (read : Rule → Evaluation → Option α) {r : Rule} (hr : r ∈ rules) :
    m.outcomeFor log state1 state2 read r =
      .value (read r (m.context.evaluationOf m.mode r state1 state2)) := by
  have hr := hends r hr
  rw [evaluateLogged_snd] at hr
  rw [outcomeFor, Context.outcomeOf_eq_of_ne_fault hr, Outcome.andThen_value]

theorem placedResults_of_ends (read : Rule → Evaluation → Option α) :
    placedResults (given (m.outcomeFor log state1 state2 read)) (placed rules) =
      placedResults (fun r => read r (m.context.evaluationOf m.mode r state1 state2))
        (placed rules) := by
  refine List.filterMap_congr fun p hp => ?_
  rw [given, outcomeFor_of_ends hends read (List.mem_of_getElem? (mem_placed.mp hp)), Outcome.getD]

/-- Rules that no fault gets out of come to what they come to without a log. -/
theorem evaluateAll_of_ends (read : Rule → Evaluation → Option α)
    {evaluate : Matcher → Rule → Matcher × Outcome (Option α)}
    (h : Gives evaluate m (m.outcomeFor log state1 state2 read)) (available : Nat) :
    (evaluateAll evaluate available m rules).2 =
      .value (placedResults (fun r => read r (m.context.evaluationOf m.mode r state1 state2))
        (placed rules)) := by
  rw [← placedResults_of_ends hends]
  refine h.evaluateAll_of_ends available fun r hr => ?_
  rw [ne_eq, outcomeFor_eq_fault_iff]
  exact hends r hr

/-- So they do one after the other, in any order. -/
theorem evaluateShare_of_ends (read : Rule → Evaluation → Option α)
    {evaluate : Matcher → Rule → Matcher × Outcome (Option α)}
    (h : Gives evaluate m (m.outcomeFor log state1 state2 read)) {order : List PlacedRule}
    (horder : order.Perm (placed rules)) :
    ∃ found, (evaluateShare evaluate m order).2 = .value found ∧
      found.Perm (placedResults
        (fun r => read r (m.context.evaluationOf m.mode r state1 state2)) (placed rules)) := by
  rw [← placedResults_of_ends hends]
  refine h.evaluateShare_perm horder (ends_iff.mpr fun p hp => ?_)
  rw [ne_eq, outcomeFor_eq_fault_iff]
  exact hends p.2 (List.mem_of_getElem? (mem_placed.mp hp))

theorem matchingLogged_of_ends (available : Nat) :
    (m.matchingLogged log available rules state1 state2).2 =
      .value (m.matching available rules state1 state2).2 := by
  have hall := evaluateAll_of_ends hends _ (m.gives_ifMatchLogged log state1 state2 id) available
  rw [matching_snd]
  exact congrArg (·.andThen fun found => .value (found.map (·.1))) hall

theorem tagsLogged_of_ends (available : Nat) :
    (m.tagsLogged log available rules state1 state2).2 =
      .value (m.tags available rules state1 state2).2 := by
  have hall :=
    evaluateAll_of_ends hends _ (m.gives_ifMatchLogged log state1 state2 Rule.tags) available
  rw [tags_snd]
  exact congrArg (·.andThen fun found => .value (NameSet.ofList (found.flatMap fun p => p.2.names))) hall

theorem capturesLogged_of_ends (available : Nat) :
    (m.capturesLogged log available rules state1 state2).2 =
      .value (m.captures available rules state1 state2).2 := by
  rw [captures_snd]
  exact evaluateAll_of_ends hends _ (m.gives_capturesLogged? log state1 state2) available

end

/-- What a batch of rules comes to: the places of the rules that match, their captures, and their
tags. -/
structure BatchComesTo (m : Matcher) (log : Log) (available : Nat) (rules : List Rule)
    (state1 state2 : Option State) (places : List Nat) (found : List (Nat × List PlacedCapture))
    (tags : NameSet) : Prop where
  matching : (m.matchingLogged log available rules state1 state2).2 = .value places
  captures : (m.capturesLogged log available rules state1 state2).2 = .value found
  tags : (m.tagsLogged log available rules state1 state2).2 = .value tags

/-- What the rules of a list come to alone, put together. -/
structure EachComesTo (m : Matcher) (log : Log) (rules : List Rule) (state1 state2 : Option State)
    (places : List Nat) (found : List (Nat × List PlacedCapture)) (tags : NameSet) : Prop where
  matching : places = (rules.zipIdx.filter fun p =>
    (m.isMatchLogged log p.1 state1 state2).2 = .value true).map (·.2)
  captures : found = rules.zipIdx.filterMap fun p =>
    ((m.capturesLogged? log p.1 state1 state2).2.getD none).map fun captures => (p.2, captures)
  tags : ∀ tag, tag ∈ tags ↔
    ∃ r ∈ rules, (m.isMatchLogged log r state1 state2).2 = .value true ∧ tag ∈ r.tags

/-- What the rules of a list come to, evaluated one after the other in some order. -/
structure OrderComesTo (m : Matcher) (log : Log) (order : List PlacedRule)
    (state1 state2 : Option State) (places : List Nat) (found : List (Nat × List PlacedCapture))
    (tags : NameSet) : Prop where
  matching : ∃ matching,
    (evaluateShare (ifMatchLogged log state1 state2 id) m order).2 = .value matching ∧
      (matching.map (·.1)).Perm places
  captures : ∃ captures,
    (evaluateShare (fun m r => m.capturesLogged? log r state1 state2) m order).2 = .value captures ∧
      captures.Perm found
  tags : ∃ tagged,
    (evaluateShare (ifMatchLogged log state1 state2 Rule.tags) m order).2 = .value tagged ∧
      ∀ tag, tag ∈ tags ↔ ∃ p ∈ tagged, tag ∈ p.2

section

variable {m m' : Matcher} {log : Log} {rules : List Rule} {state1 state2 : Option State}

/-- Workers and memories have no influence on the results. -/
theorem matching_congr (hcontext : m'.context = m.context) (hmode : m'.mode = m.mode)
    (available available' : Nat) :
    (m.matching available rules state1 state2).2 =
      (m'.matching available' rules state1 state2).2 := by
  rw [matching_snd, matching_snd, resultOf_congr state1 state2 hcontext hmode]

theorem captures_congr (hcontext : m'.context = m.context) (hmode : m'.mode = m.mode)
    (available available' : Nat) :
    (m.captures available rules state1 state2).2 =
      (m'.captures available' rules state1 state2).2 := by
  rw [captures_snd, captures_snd, hcontext, hmode]

theorem tags_congr (hcontext : m'.context = m.context) (hmode : m'.mode = m.mode)
    (available available' : Nat) :
    (m.tags available rules state1 state2).2 = (m'.tags available' rules state1 state2).2 := by
  rw [tags_snd, tags_snd, resultOf_congr state1 state2 hcontext hmode]

theorem ends_congr (hcontext : m'.context = m.context) (hmode : m'.mode = m.mode)
    (hends : ∀ r ∈ rules, (m.evaluateLogged log r state1 state2).2 ≠ .fault) :
    ∀ r ∈ rules, (m'.evaluateLogged log r state1 state2).2 ≠ .fault := by
  simpa only [evaluateLogged_snd, hcontext, hmode] using hends

variable (hends : ∀ r ∈ rules, (m.evaluateLogged log r state1 state2).2 ≠ .fault)
include hends

theorem batchComesTo_of_ends (available : Nat) :
    m.BatchComesTo log available rules state1 state2 (m.matching available rules state1 state2).2
      (m.captures available rules state1 state2).2 (m.tags available rules state1 state2).2 where
  matching := matchingLogged_of_ends hends available
  captures := capturesLogged_of_ends hends available
  tags := tagsLogged_of_ends hends available

theorem isMatchLogged_of_ends {r : Rule} (hr : r ∈ rules) :
    (m.isMatchLogged log r state1 state2).2 =
      .value (m.context.evaluationOf m.mode r state1 state2).matched := by
  have hr := hends r hr
  rw [evaluateLogged_snd] at hr
  rw [isMatchLogged_snd, Context.outcomeOf_eq_of_ne_fault hr, Outcome.andThen_value]

theorem capturesLogged?_of_ends {r : Rule} (hr : r ∈ rules) :
    (m.capturesLogged? log r state1 state2).2 =
      .value (m.context.evaluationOf m.mode r state1 state2).captures? := by
  have hr := hends r hr
  rw [evaluateLogged_snd] at hr
  rw [capturesLogged?_snd, Context.outcomeOf_eq_of_ne_fault hr, Outcome.andThen_value]

theorem eachComesTo_of_ends (available : Nat) :
    m.EachComesTo log rules state1 state2 (m.matching available rules state1 state2).2
      (m.captures available rules state1 state2).2 (m.tags available rules state1 state2).2 := by
  refine ⟨?_, ?_, fun tag => ?_⟩
  · rw [matching_eq_filter]
    refine congrArg (List.map _) (List.filter_congr fun p hp => ?_)
    rw [isMatchLogged_of_ends hends (List.fst_mem_of_mem_zipIdx hp)]
    simp
  · rw [captures_eq_filterMap]
    refine List.filterMap_congr fun p hp => ?_
    rw [capturesLogged?_of_ends hends (List.fst_mem_of_mem_zipIdx hp), Outcome.getD]
  · rw [mem_tags_iff]
    refine exists_congr fun r => and_congr_right fun hr => ?_
    rw [isMatchLogged_of_ends hends hr, Outcome.value.injEq]

theorem orderComesTo_of_ends (available : Nat) {order : List PlacedRule}
    (horder : order.Perm (placed rules)) :
    m.OrderComesTo log order state1 state2 (m.matching available rules state1 state2).2
      (m.captures available rules state1 state2).2 (m.tags available rules state1 state2).2 := by
  obtain ⟨matching, hmatching, hplaces⟩ :=
    evaluateShare_of_ends hends _ (m.gives_ifMatchLogged log state1 state2 id) horder
  obtain ⟨captures, hcaptures, hfound⟩ :=
    evaluateShare_of_ends hends _ (m.gives_capturesLogged? log state1 state2) horder
  obtain ⟨tagged, htagged, htags⟩ :=
    evaluateShare_of_ends hends _ (m.gives_ifMatchLogged log state1 state2 Rule.tags) horder
  refine ⟨⟨matching, hmatching, ?_⟩, ⟨captures, hcaptures, ?_⟩, ⟨tagged, htagged, fun tag => ?_⟩⟩
  · rw [matching_snd]
    exact hplaces.map _
  · rw [captures_snd]
    exact hfound
  · rw [tags_snd, NameSet.mem_ofList, List.mem_flatMap]
    simp only [htags.mem_iff]
    rfl

end

private def absence : Rule := (Rule.named "absence" "absence").withClause (.ofOperation .isNull)

private def unreadable : Rule := absence.withExpression "0 AND"

private def raising : CustomOperation :=
  ⟨"x", fun _ => .value true, fun _ _ _ _ _ => .fault, fun _ _ => .value []⟩

private def asking : Rule :=
  (Rule.named "asking" "asking").withClause ((Clause.ofOperation .custom).withCustomOperation "x")

end RuleMatching.Matcher
