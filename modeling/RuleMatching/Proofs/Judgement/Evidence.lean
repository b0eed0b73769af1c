import RuleMatching.Judgement.BuiltIn

/-!
What judgements show.  Whether it holds or not, a judgement shows what it rests on: something found,
or all that was looked at.  The one exception is the question whether there is nothing:
`finding_eq_none_iff`.
-/

set_option autoImplicit false
set_option relaxedAutoImplicit false

namespace RuleMatching

namespace Judgement

/-- Every judgement that an operation comes to shows something. -/
def IsEvident (o : Outcome (Option Judgement)) : Prop :=
  ∀ v, o = .value (some v) → v.finding ≠ none

variable {reducers : List Reducer} {c : Clause} {states : List State}

theorem isEvident_some (holds : Bool) (x : Finding) : IsEvident (.value (some ⟨holds, some x⟩)) := by
  rintro _ ⟨rfl⟩
  simp

theorem isEvident_none : IsEvident (.value none) := by
  simp [IsEvident]

theorem IsEvident.andThen {α : Type} {o : Outcome α} {f : α → Outcome (Option Judgement)}
    (h : ∀ a, IsEvident (f a)) : IsEvident (o.andThen f) := by
  cases o with
  | fault => simp [IsEvident]
  | value a => exact h a

theorem isEvident_search (look : State → Outcome (Option Finding)) :
    IsEvident (search reducers look states) := by
  refine .andThen fun x => ?_
  cases x with
  | some x => exact isEvident_some true x
  | none => exact .andThen fun ts => isEvident_some false (.list ts)

theorem isEvident_someText (test : String → Bool) :
    IsEvident (someText reducers test c states) := by
  rw [someText]
  split
  · exact isEvident_none
  · exact isEvident_search _

theorem isEvident_someParts (all : Bool) : IsEvident (someParts reducers all c states) := by
  rw [someParts]
  split
  · exact isEvident_none
  · exact isEvident_search _

theorem isEvident_firstPassing {α : Type} (test : α → Bool) (find : α → Finding) (as : List α) :
    IsEvident (.value (firstPassing test find as)) := by
  cases as with
  | nil => exact isEvident_none
  | cons a as =>
    rw [firstPassing]
    split
    · exact isEvident_some true _
    · exact isEvident_some false _

theorem isEvident_someKey : IsEvident (someKey reducers c states) := by
  rw [someKey]
  split
  · exact isEvident_none
  · refine .andThen fun keyed => ?_
    split
    · exact isEvident_none
    · split
      · exact isEvident_some true _
      · exact isEvident_some false _

theorem isEvident_someInteger (compare : Int64 → Int64 → Bool) :
    IsEvident (someInteger reducers compare c states) := by
  rw [someInteger]
  split
  · exact isEvident_none
  · exact .andThen fun ts => isEvident_firstPassing _ _ _

theorem isEvident_somePattern (pattern : Option Pattern) :
    IsEvident (somePattern reducers pattern c states) := by
  unfold somePattern
  split
  · exact isEvident_none
  · cases pattern with
    | none => exact isEvident_none
    | some p => exact isEvident_search _

theorem isEvident_someTrue : IsEvident (.value (someTrue states)) := by
  rw [someTrue]
  split
  · exact isEvident_none
  · exact isEvident_some _ _

theorem isEvident_someInstant (compare : Instant → Instant → Bool) :
    IsEvident (.value (someInstant compare c states)) := by
  rw [someInstant]
  split
  · exact isEvident_none
  · exact isEvident_firstPassing _ _ _

/-- Nothing is shown just by the operation that asks whether there is nothing. -/
theorem finding_eq_none_iff {now : Instant} {pattern : Option Pattern} {state1 state2 : Option State}
    {v : Judgement} (h : ofClause reducers now pattern c state1 state2 = .value (some v)) :
    v.finding = none ↔ c.operation = .isNull := by
  by_cases hnull : c.operation = .isNull
  · rw [ofClause, hnull] at h
    obtain rfl := Option.some.inj (Outcome.value.inj h)
    exact iff_of_true rfl hnull
  · refine iff_of_false ?_ hnull
    have hevident : IsEvident (ofClause reducers now pattern c state1 state2) := by
      unfold ofClause
      cases hoperation : c.operation with
      | isNull => exact absurd hoperation hnull
      | equals | startsWith | endsWith => exact isEvident_someText _
      | contains | containsAny => exact isEvident_someParts _
      | containsKey => exact isEvident_someKey
      | lessThan | greaterThan => exact isEvident_someInteger _
      | regex => exact isEvident_somePattern pattern
      | isTrue => exact isEvident_someTrue
      | wasModified => exact .andThen fun ds => isEvident_some _ _
      | isBefore | isAfter => exact isEvident_someInstant _
      | isExpired => exact isEvident_firstPassing _ _ _
      | custom => exact isEvident_none
    exact hevident v h

end Judgement

end RuleMatching
