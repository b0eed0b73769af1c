import RuleMatching.Judgement.BuiltIn

/-!
What judgements read of the reducers.  An operation looks at a state either directly or through what
the state is brought down to, so two lists of reducers that bring the states at hand down to the same
give the same judgement: `Judgement.ofClause_congr`.
-/

set_option autoImplicit false
set_option relaxedAutoImplicit false

namespace RuleMatching

theorem Outcome.forEach_congr {α β : Type} {f g : α → Outcome β} {as : List α}
    (h : ∀ a ∈ as, f a = g a) : forEach f as = forEach g as := by
  induction as with
  | nil => rfl
  | cons a as ih =>
    obtain ⟨ha, has⟩ := List.forall_mem_cons.mp h
    rw [forEach, forEach, ha, ih has]

namespace Judgement

variable {reducers reducers' : List Reducer} {c : Clause} {states : List State} {s : State}

/-! ### A single state -/

theorem textsOf_congr (h : s.reduce reducers' = s.reduce reducers) :
    textsOf reducers' s = textsOf reducers s := by
  rw [textsOf, textsOf, h]

theorem pairsOf_congr (h : s.reduce reducers' = s.reduce reducers) :
    pairsOf reducers' s = pairsOf reducers s := by
  rw [pairsOf, pairsOf, h]

theorem lookForParts_congr (h : s.reduce reducers' = s.reduce reducers) (all : Bool) :
    lookForParts reducers' all c s = lookForParts reducers all c s := by
  have htexts := textsOf_congr h
  have hpairs := pairsOf_congr h
  unfold lookForParts
  cases c.operand with
  | none => rfl
  | dict pairs => simp only [hpairs]
  | list data =>
    cases s with
    | flags f => rfl
    | text t => rfl
    | _ => simp only [htexts]

theorem keysOf_congr (h : s.reduce reducers' = s.reduce reducers) :
    keysOf reducers' s = keysOf reducers s := by
  have hpairs := pairsOf_congr h
  cases s with
  | map keys entry => rfl
  | _ => simp only [keysOf, hpairs]

/-! ### All states -/

theorem firstFinding_congr {look look' : State → Outcome (Option Finding)}
    (h : ∀ s ∈ states, look' s = look s) :
    firstFinding look' states = firstFinding look states := by
  induction states with
  | nil => rfl
  | cons s ss ih =>
    obtain ⟨hs, hss⟩ := List.forall_mem_cons.mp h
    rw [firstFinding, firstFinding, hs, ih hss]

section

variable (h : ∀ s ∈ states, s.reduce reducers' = s.reduce reducers)
include h

theorem allTexts_congr : allTexts reducers' states = allTexts reducers states := by
  rw [allTexts, allTexts, Outcome.forEach_congr fun s hs => textsOf_congr (h s hs)]

theorem search_congr {look look' : State → Outcome (Option Finding)}
    (hlook : ∀ s ∈ states, look' s = look s) :
    search reducers' look' states = search reducers look states := by
  simp only [search, firstFinding_congr hlook, allTexts_congr h]

theorem someText_congr (test : String → Bool) :
    someText reducers' test c states = someText reducers test c states := by
  have hlook : ∀ s ∈ states, lookForTexts reducers' test s = lookForTexts reducers test s := by
    intro s hs
    rw [lookForTexts, lookForTexts, textsOf_congr (h s hs)]
  rw [someText, someText, search_congr h hlook]

theorem someParts_congr (all : Bool) :
    someParts reducers' all c states = someParts reducers all c states := by
  rw [someParts, someParts, search_congr h fun s hs => lookForParts_congr (h s hs) all]

theorem someKey_congr : someKey reducers' c states = someKey reducers c states := by
  rw [someKey, someKey, Outcome.forEach_congr fun s hs => keysOf_congr (h s hs)]

theorem someInteger_congr (compare : Int64 → Int64 → Bool) :
    someInteger reducers' compare c states = someInteger reducers compare c states := by
  simp only [someInteger, allTexts_congr h]

theorem somePattern_congr (pattern : Option Pattern) :
    somePattern reducers' pattern c states = somePattern reducers pattern c states := by
  cases pattern with
  | none => rfl
  | some p =>
    have hlook : ∀ s ∈ states, lookForPattern reducers' p s = lookForPattern reducers p s := by
      intro s hs
      rw [lookForPattern, lookForPattern, textsOf_congr (h s hs)]
    simp only [somePattern, search_congr h hlook]

end

/-- Reducers that bring the states down to the same give the same judgement.  The time matters only to
the operation that asks whether it is over. -/
theorem ofClause_congr {state1 state2 : Option State} {now now' : Instant}
    (h : ∀ s ∈ present state1 state2, s.reduce reducers' = s.reduce reducers)
    (hnow : c.operation = .isExpired → now' = now) (pattern : Option Pattern) :
    ofClause reducers' now' pattern c state1 state2 =
      ofClause reducers now pattern c state1 state2 := by
  unfold ofClause
  cases hoperation : c.operation with
  | equals | startsWith | endsWith => exact someText_congr h _
  | contains | containsAny => exact someParts_congr h _
  | containsKey => exact someKey_congr h
  | lessThan | greaterThan => exact someInteger_congr h _
  | regex => exact somePattern_congr h pattern
  | isExpired => rw [hnow hoperation]
  | _ => rfl

end Judgement

end RuleMatching
