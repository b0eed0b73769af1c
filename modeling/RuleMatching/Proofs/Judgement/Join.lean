import Mathlib.Data.Fintype.Order
import RuleMatching.Proofs.Judgement.Decision

/-!
Judgements on two states from the judgements on each.  A built-in operation that looks for something
in the states that are there is decided on two lists of states, one behind the other, if it is on one
of them, and holds if it does on one of them; what shows it is what shows it on the first of them on
which it holds: `joins_ofClause`.  Two operations are left out: one asks whether there are no states,
the other compares them.
-/

set_option autoImplicit false
set_option relaxedAutoImplicit false

namespace RuleMatching

/-- What comes of elements in front and of those behind them comes of all. -/
theorem Outcome.forEach_append {α β : Type} (f : α → Outcome β) (as as' : List α) :
    forEach f (as ++ as') =
      (forEach f as).andThen fun bs => (forEach f as').andThen fun bs' => value (bs ++ bs') := by
  induction as with
  | nil => cases h : forEach f as' <;> simp [forEach, h]
  | cons a as ih =>
    rw [List.cons_append, forEach, forEach, ih]
    cases f a with
    | fault => rfl
    | value b =>
      cases forEach f as with
      | fault => rfl
      | value bs => cases forEach f as' <;> rfl

namespace Judgement

/-- The verdict of a judgement: undecided without one, and else whether it holds.  To be undecided is
less than to be false, and to be false less than to be true. -/
def verdict : Option Judgement → WithBot Bool
  | none => ⊥
  | some v => v.holds

/-- The judgement, if it holds. -/
def affirmed : Option Judgement → Option Judgement
  | some ⟨true, finding⟩ => some ⟨true, finding⟩
  | _ => none

/-- A judgement is there if one of two others is, and is the first of them that holds, if one of them
does. -/
structure Joins (v v₁ v₂ : Option Judgement) : Prop where
  decided : v.isSome = (v₁.isSome || v₂.isSome)
  affirms : affirmed v = (affirmed v₁).or (affirmed v₂)

variable {v v₁ v₂ : Option Judgement}

/-- The verdict of a joined judgement is the greater of the two. -/
theorem Joins.verdict_eq (h : Joins v v₁ v₂) : verdict v = max (verdict v₁) (verdict v₂) := by
  obtain ⟨hdecided, haffirms⟩ := h
  rcases v with _ | ⟨_ | _, f⟩ <;> rcases v₁ with _ | ⟨_ | _, f₁⟩ <;>
    rcases v₂ with _ | ⟨_ | _, f₂⟩ <;> simp_all [verdict, affirmed]

theorem verdict_eq_true_iff : verdict v = (true : Bool) ↔ ∃ w, affirmed v = some w := by
  rcases v with _ | ⟨_ | _, finding⟩ <;> simp [verdict, affirmed]

theorem eq_of_affirmed_eq_some {w : Judgement} (h : affirmed v = some w) : v = some w := by
  rcases v with _ | ⟨_ | _, finding⟩ <;> simp_all [affirmed]

/-- If the first of two judgements holds, then it is the joined one. -/
theorem Joins.eq_left (h : Joins v v₁ v₂) (h₁ : verdict v₁ = (true : Bool)) : v = v₁ := by
  obtain ⟨w, hw⟩ := verdict_eq_true_iff.mp h₁
  have haffirms := h.affirms
  rw [hw, Option.some_or] at haffirms
  rw [eq_of_affirmed_eq_some haffirms, eq_of_affirmed_eq_some hw]

/-- If just the second of two judgements holds, then it is the joined one. -/
theorem Joins.eq_right (h : Joins v v₁ v₂) (htrue : verdict v = (true : Bool))
    (h₁ : verdict v₁ ≠ (true : Bool)) : v = v₂ := by
  have hnone : affirmed v₁ = none := by
    rw [Option.eq_none_iff_forall_ne_some]
    exact fun w hw => h₁ (verdict_eq_true_iff.mpr ⟨w, hw⟩)
  obtain ⟨w, hw⟩ := verdict_eq_true_iff.mp htrue
  have haffirms := h.affirms
  rw [hw, hnone, Option.none_or] at haffirms
  rw [eq_of_affirmed_eq_some hw, eq_of_affirmed_eq_some haffirms.symm]

theorem joins_none_left : Joins v none v := ⟨by simp, by simp [affirmed]⟩

theorem joins_none_right : Joins v v none := ⟨by simp, by simp [affirmed]⟩

/-- There is a judgement just if it is decided, and it holds just if something is found, which shows
it. -/
structure Shows (v : Option Judgement) (decided : Bool) (found : Option Finding) : Prop where
  isSome_eq : v.isSome = decided
  affirmed_eq : affirmed v = found.map fun x => ⟨true, some x⟩

/-- A judgement joins two others if it is decided where one of them is and shows what is found first
for them. -/
theorem Shows.joins {d₁ d₂ : Bool} {x₁ x₂ : Option Finding} (h : Shows v (d₁ || d₂) (x₁.or x₂))
    (h₁ : Shows v₁ d₁ x₁) (h₂ : Shows v₂ d₂ x₂) : Joins v v₁ v₂ := by
  refine ⟨by rw [h.isSome_eq, h₁.isSome_eq, h₂.isSome_eq], ?_⟩
  rw [h.affirmed_eq, h₁.affirmed_eq, h₂.affirmed_eq]
  cases x₁ <;> rfl

/-- A judgement on states in front and states behind them joins the judgements on each. -/
def JoinsStates (judge : List State → Outcome (Option Judgement)) : Prop :=
  ∀ ⦃xs ys v v₁ v₂⦄, judge (xs ++ ys) = .value v → judge xs = .value v₁ → judge ys = .value v₂ →
    Joins v v₁ v₂

theorem joinsStates_none : JoinsStates fun _ => .value none := by
  rintro xs ys v v₁ v₂ ⟨rfl⟩ ⟨rfl⟩ ⟨rfl⟩
  exact joins_none_left

variable {reducers : List Reducer} {c : Clause} {states : List State}

/-! ### One operation after the other -/

theorem firstFinding_append (look : State → Outcome (Option Finding)) (xs ys : List State) :
    firstFinding look (xs ++ ys) = (firstFinding look xs).andThen fun
      | some x => .value (some x)
      | none => firstFinding look ys := by
  induction xs with
  | nil => rfl
  | cons s xs ih =>
    rw [List.cons_append, firstFinding, firstFinding, ih]
    rcases look s with (_ | x) | _ <;> rfl

/-- A search is always decided, and shows what is found first. -/
theorem shows_search {look : State → Outcome (Option Finding)}
    (h : search reducers look states = .value v) :
    ∃ x, firstFinding look states = .value x ∧ Shows v true x := by
  obtain ⟨x, hx, h⟩ := Outcome.andThen_eq_value_iff.mp h
  refine ⟨x, hx, ?_⟩
  cases x with
  | some x =>
    obtain rfl := Outcome.value.inj h
    exact ⟨rfl, rfl⟩
  | none =>
    obtain ⟨ts, -, h⟩ := Outcome.andThen_eq_value_iff.mp h
    obtain rfl := Outcome.value.inj h
    exact ⟨rfl, rfl⟩

/-- An operation that searches the states, if there are any and its operand allows. -/
theorem joinsStates_search (hindered : Bool) (look : State → Outcome (Option Finding)) :
    JoinsStates fun states =>
      if hindered || states.isEmpty then .value none else search reducers look states := by
  intro xs ys v v₁ v₂ h h₁ h₂
  cases hindered with
  | true => exact @joinsStates_none xs ys v v₁ v₂ h h₁ h₂
  | false =>
    cases xs with
    | nil =>
      obtain rfl := Outcome.value.inj h₁
      obtain rfl := Outcome.value.inj (h.symm.trans h₂)
      exact joins_none_left
    | cons s xs =>
      cases ys with
      | nil =>
        rw [List.append_nil] at h
        obtain rfl := Outcome.value.inj h₂
        obtain rfl := Outcome.value.inj (h.symm.trans h₁)
        exact joins_none_right
      | cons t ys =>
        obtain ⟨x, hx, hshows⟩ := shows_search h
        obtain ⟨x₁, hx₁, hshows₁⟩ := shows_search h₁
        obtain ⟨x₂, hx₂, hshows₂⟩ := shows_search h₂
        have hfirst : x = x₁.or x₂ := by
          rw [firstFinding_append, hx₁, Outcome.andThen_value, hx₂] at hx
          cases x₁ <;> exact (Outcome.value.inj hx).symm
        have hboth : Shows v (true || true) (x₁.or x₂) := hfirst ▸ hshows
        exact hboth.joins hshows₁ hshows₂

theorem joinsStates_somePattern (pattern : Option Pattern) :
    JoinsStates (somePattern reducers pattern c) := by
  cases pattern with
  | some p => exact joinsStates_search c.data.isEmpty _
  | none =>
    have hnone : somePattern reducers none c = fun _ => .value none := by
      funext states
      rw [somePattern, ite_self]
    rw [hnone]
    exact joinsStates_none

private theorem not_isEmpty_append {α : Type} (as as' : List α) :
    (!(as ++ as').isEmpty) = (!as.isEmpty || !as'.isEmpty) := by
  cases as <;> rfl

/-- The keys of states in which one of the wanted is among them. -/
theorem shows_someKey (hdata : c.data.isEmpty = false) (h : someKey reducers c states = .value v) :
    ∃ keyed, Outcome.forEach (keysOf reducers) states = .value keyed ∧
      Shows v (!keyed.flatten.isEmpty)
        (((keyed.map fun ks => ks.filter c.data.contains).find? fun hits => !hits.isEmpty).map
          .list) := by
  rw [someKey, hdata] at h
  obtain ⟨keyed, hkeyed, h⟩ := Outcome.andThen_eq_value_iff.mp h
  refine ⟨keyed, hkeyed, ?_⟩
  split at h
  · rename_i hempty
    obtain rfl := Outcome.value.inj h
    have hnil : ∀ ks ∈ keyed, ks = [] := List.flatten_eq_nil_iff.mp (List.isEmpty_iff.mp hempty)
    refine ⟨by simp [hempty], ?_⟩
    rw [List.find?_eq_none.mpr]
    · rfl
    · intro hits hhits
      obtain ⟨ks, hks, rfl⟩ := List.mem_map.mp hhits
      simp [hnil ks hks]
  · rename_i hkeys
    split at h
    · rename_i hits hhits
      obtain rfl := Outcome.value.inj h
      exact ⟨by simp [hkeys], by rw [hhits]; rfl⟩
    · rename_i hhits
      obtain rfl := Outcome.value.inj h
      exact ⟨by simp [hkeys], by rw [hhits]; rfl⟩

theorem joinsStates_someKey : JoinsStates (someKey reducers c) := by
  intro xs ys v v₁ v₂ h h₁ h₂
  cases hdata : c.data.isEmpty with
  | true =>
    simp only [someKey, hdata, if_true] at h h₁ h₂
    exact @joinsStates_none xs ys v v₁ v₂ h h₁ h₂
  | false =>
    obtain ⟨keyed, hkeyed, hshows⟩ := shows_someKey hdata h
    obtain ⟨keyed₁, hkeyed₁, hshows₁⟩ := shows_someKey hdata h₁
    obtain ⟨keyed₂, hkeyed₂, hshows₂⟩ := shows_someKey hdata h₂
    rw [Outcome.forEach_append, hkeyed₁, hkeyed₂] at hkeyed
    obtain rfl := Outcome.value.inj hkeyed
    refine Shows.joins ?_ hshows₁ hshows₂
    simpa only [List.flatten_append, not_isEmpty_append, List.map_append,
      List.find?_append, Option.map_or] using hshows

/-- A judgement on values is decided if there are any, and shows the first that passes. -/
theorem shows_firstPassing {α : Type} (test : α → Bool) (find : α → Finding) (as : List α) :
    Shows (firstPassing test find as) (!as.isEmpty) ((as.find? test).map find) := by
  cases as with
  | nil => exact ⟨rfl, rfl⟩
  | cons a as =>
    rw [firstPassing]
    split
    · rename_i b hb
      exact ⟨rfl, by rw [hb]; rfl⟩
    · rename_i hnone
      exact ⟨rfl, by rw [hnone]; rfl⟩

theorem joins_firstPassing {α : Type} (test : α → Bool) (find : α → Finding) (as as' : List α) :
    Joins (firstPassing test find (as ++ as')) (firstPassing test find as)
      (firstPassing test find as') := by
  refine Shows.joins ?_ (shows_firstPassing test find as) (shows_firstPassing test find as')
  simpa only [not_isEmpty_append, List.find?_append, Option.map_or] using
    shows_firstPassing test find (as ++ as')

theorem allTexts_append (xs ys : List State) :
    allTexts reducers (xs ++ ys) = (allTexts reducers xs).andThen fun ts =>
      (allTexts reducers ys).andThen fun us => .value (ts ++ us) := by
  rw [allTexts, allTexts, allTexts, Outcome.forEach_append]
  cases Outcome.forEach (textsOf reducers) xs with
  | fault => rfl
  | value ts =>
    cases Outcome.forEach (textsOf reducers) ys with
    | fault => rfl
    | value us => simp

theorem joinsStates_someInteger (compare : Int64 → Int64 → Bool) :
    JoinsStates (someInteger reducers compare c) := by
  intro xs ys v v₁ v₂ h h₁ h₂
  rw [someInteger] at h h₁ h₂
  cases hthreshold : c.data.head?.bind integer? with
  | none =>
    rw [hthreshold] at h h₁ h₂
    exact @joinsStates_none xs ys v v₁ v₂ h h₁ h₂
  | some threshold =>
    simp only [hthreshold] at h h₁ h₂
    obtain ⟨ts₁, hts₁, h₁⟩ := Outcome.andThen_eq_value_iff.mp h₁
    obtain ⟨ts₂, hts₂, h₂⟩ := Outcome.andThen_eq_value_iff.mp h₂
    rw [allTexts_append, hts₁, hts₂] at h
    obtain rfl := Outcome.value.inj h
    obtain rfl := Outcome.value.inj h₁
    obtain rfl := Outcome.value.inj h₂
    rw [List.filterMap_append]
    exact joins_firstPassing _ _ _ _

theorem shows_someTrue :
    Shows (someTrue states) (!(states.filterMap State.bool?).isEmpty)
      (if (states.filterMap State.bool?).contains true then some (.bool true) else none) := by
  rw [someTrue]
  split
  · rename_i hnil
    rw [hnil]
    exact ⟨rfl, rfl⟩
  · rename_i hne
    refine ⟨by simpa using hne, ?_⟩
    cases (states.filterMap State.bool?).contains true <;> rfl

theorem joins_someTrue (xs ys : List State) :
    Joins (someTrue (xs ++ ys)) (someTrue xs) (someTrue ys) := by
  refine Shows.joins ?_ shows_someTrue shows_someTrue
  have hshows := @shows_someTrue (xs ++ ys)
  rw [List.filterMap_append, not_isEmpty_append, List.contains_append] at hshows
  cases htrue : (xs.filterMap State.bool?).contains true
  · rwa [htrue, Bool.false_or] at hshows
  · rwa [htrue, Bool.true_or] at hshows

theorem joins_someInstant (compare : Instant → Instant → Bool) (xs ys : List State) :
    Joins (someInstant compare c (xs ++ ys)) (someInstant compare c xs)
      (someInstant compare c ys) := by
  unfold someInstant
  split
  · exact joins_none_left
  · rw [List.filterMap_append]
    exact joins_firstPassing _ _ _ _

theorem joins_someExpired (now : Instant) (xs ys : List State) :
    Joins (someExpired now (xs ++ ys)) (someExpired now xs) (someExpired now ys) := by
  rw [someExpired, List.filterMap_append]
  exact joins_firstPassing _ _ _ _

theorem JoinsStates.of_joins {judge : List State → Option Judgement}
    (h : ∀ xs ys, Joins (judge (xs ++ ys)) (judge xs) (judge ys)) :
    JoinsStates fun states => .value (judge states) := by
  rintro xs ys _ _ _ ⟨rfl⟩ ⟨rfl⟩ ⟨rfl⟩
  exact h xs ys

/-- The judgement of a clause on two states joins those on each of them alone. -/
theorem joins_ofClause (hnull : c.operation ≠ .isNull) (hmodified : c.operation ≠ .wasModified)
    {now : Instant} {pattern : Option Pattern} {state1 state2 : Option State}
    (h : ofClause reducers now pattern c state1 state2 = .value v)
    (h₁ : ofClause reducers now pattern c state1 none = .value v₁)
    (h₂ : ofClause reducers now pattern c none state2 = .value v₂) : Joins v v₁ v₂ := by
  have hleft : present state1 none = state1.toList := List.append_nil _
  have hright : present none state2 = state2.toList := List.nil_append _
  rw [ofClause, present] at h
  rw [ofClause, hleft] at h₁
  rw [ofClause, hright] at h₂
  cases hoperation : c.operation <;> simp only [hoperation] at h h₁ h₂
  case isNull => exact absurd hoperation hnull
  case wasModified => exact absurd hoperation hmodified
  case equals | startsWith | endsWith | contains | containsAny =>
    exact joinsStates_search _ _ h h₁ h₂
  case containsKey => exact joinsStates_someKey h h₁ h₂
  case lessThan | greaterThan => exact joinsStates_someInteger _ h h₁ h₂
  case regex => exact joinsStates_somePattern pattern h h₁ h₂
  case isTrue => exact JoinsStates.of_joins joins_someTrue h h₁ h₂
  case isBefore | isAfter => exact JoinsStates.of_joins (joins_someInstant _) h h₁ h₂
  case isExpired => exact JoinsStates.of_joins (joins_someExpired now) h h₁ h₂
  case custom =>
    exact @joinsStates_none state1.toList state2.toList v v₁ v₂ h h₁ h₂

end Judgement

end RuleMatching
