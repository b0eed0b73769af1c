import RuleMatching.Proofs.Judgement.Finding
import RuleMatching.Proofs.Judgement.Join

/-!
What judgements read of the operand.  An operation asks whether something is among the entries of its
operand, or whether all of them or one of them is found in a state, so neither the order of the entries
nor how often they occur plays a part.  With more entries an operation is affirmed at least where it
was before, and `contains` at most: `verdictOf_ofClause_le` and `verdictOf_contains_le`.
-/

set_option autoImplicit false
set_option relaxedAutoImplicit false

namespace RuleMatching

namespace Operand

/-- The entries of an operand are among those of another of the same form. -/
def Within : Operand → Operand → Prop
  | none, none => True
  | list data, list data' => data ⊆ data'
  | dict pairs, dict pairs' => pairs ⊆ pairs'
  | _, _ => False

/-- Two operands differ at most in the order of their entries and in how often these occur. -/
def SameEntries (o o' : Operand) : Prop := o.Within o' ∧ o'.Within o

def HasEntry (o : Operand) : Prop := o.data ≠ [] ∨ o.dictData ≠ []

variable {o o' : Operand}

theorem Within.data_subset (h : o.Within o') : o.data ⊆ o'.data := by
  cases o <;> cases o' <;> simp_all [Within, data]

theorem Within.dictData_subset (h : o.Within o') : o.dictData ⊆ o'.dictData := by
  cases o <;> cases o' <;> simp_all [Within, dictData]

theorem Within.hasEntry (h : o.Within o') (ho : o.HasEntry) : o'.HasEntry :=
  ho.imp (fun hne hnil => hne (List.subset_nil.mp (hnil ▸ h.data_subset)))
    fun hne hnil => hne (List.subset_nil.mp (hnil ▸ h.dictData_subset))

/-- An operand without entries has no other operand within it. -/
theorem Within.eq_of_not_hasEntry (h : o'.Within o) (ho : ¬o.HasEntry) : o' = o := by
  cases o <;> cases o' <;> simp_all [Within, HasEntry, data, dictData]

end Operand

/-- The operations that look for one of the entries of their operand. -/
def Operation.seeksOne : Operation → Bool
  | equals | startsWith | endsWith | containsKey | containsAny | isBefore | isAfter => true
  | _ => false

/-- The clause with another operand. -/
def Clause.withOperand (c : Clause) (o : Operand) : Clause := { c with operand := o }

namespace Judgement

/-- The verdict that an operation comes to; a fault leaves it undecided. -/
def verdictOf (o : Outcome (Option Judgement)) : WithBot Bool := verdict (o.getD none)

/-! ### Searching for more -/

/-- Where one look comes to something or nothing, so does the other, and to something at least where
the first does. -/
def FindsMore (o o' : Outcome (Option Finding)) : Prop :=
  ∀ x, o = .value x → ∃ y, o' = .value y ∧ (x.isSome = true → y.isSome = true)

theorem FindsMore.value {x y : Option Finding} (h : x.isSome = true → y.isSome = true) :
    FindsMore (.value x) (.value y) := by
  rintro _ ⟨rfl⟩
  exact ⟨y, rfl, h⟩

theorem FindsMore.andThen {α : Type} (o : Outcome α) {f g : α → Outcome (Option Finding)}
    (h : ∀ a, o = .value a → FindsMore (f a) (g a)) : FindsMore (o.andThen f) (o.andThen g) := by
  intro x hx
  obtain ⟨a, ha, hf⟩ := Outcome.andThen_eq_value_iff.mp hx
  rw [ha, Outcome.andThen_value]
  exact h a ha x hf

variable {reducers : List Reducer} {states : List State} {c c' : Clause}
  {look look' : State → Outcome (Option Finding)}

theorem FindsMore.firstFinding (h : ∀ s ∈ states, FindsMore (look s) (look' s)) :
    FindsMore (firstFinding look states) (firstFinding look' states) := by
  induction states with
  | nil => exact .value id
  | cons s ss ih =>
    obtain ⟨hs, hss⟩ := List.forall_mem_cons.mp h
    intro x hx
    rw [Judgement.firstFinding] at hx
    obtain ⟨y, hy, hx⟩ := Outcome.andThen_eq_value_iff.mp hx
    obtain ⟨y', hy', hmore⟩ := hs y hy
    rw [Judgement.firstFinding, hy', Outcome.andThen_value]
    cases y' with
    | some y' => exact ⟨_, rfl, fun _ => rfl⟩
    | none =>
      obtain rfl : y = none := by
        cases y with
        | none => rfl
        | some y => exact absurd (hmore rfl) (by simp)
      exact ih hss x hx

/-- No verdict is greater than the true one. -/
theorem le_verdict_of_holds (v : WithBot Bool) {w : Judgement} (hw : w.holds = true) :
    v ≤ verdictOf (.value (some w)) := by
  have htop : verdictOf (.value (some w)) = ⊤ := by
    change ((w.holds : Bool) : WithBot Bool) = ⊤
    rw [hw]
    rfl
  rw [htop]
  exact le_top

theorem verdictOf_search_le (h : ∀ s ∈ states, FindsMore (look s) (look' s)) :
    verdictOf (search reducers look states) ≤ verdictOf (search reducers look' states) := by
  rw [search, search]
  cases hx : firstFinding look states with
  | fault => exact bot_le
  | value x =>
    obtain ⟨y, hy, hmore⟩ := FindsMore.firstFinding h x hx
    rw [hy, Outcome.andThen_value, Outcome.andThen_value]
    cases y with
    | some y => exact le_verdict_of_holds _ rfl
    | none =>
      obtain rfl : x = none := by
        cases x with
        | none => rfl
        | some x => exact absurd (hmore rfl) (by simp)
      rfl

/-! ### Texts and keys -/

theorem findsMore_lookForTexts {test test' : String → Bool} (h : ∀ t, test t → test' t)
    (s : State) : FindsMore (lookForTexts reducers test s) (lookForTexts reducers test' s) := by
  refine .andThen _ fun ts _ => .value ?_
  rw [isSome_textFinding, isSome_textFinding]
  refine mt fun hnil => ?_
  rw [List.filter_eq_nil_iff] at hnil ⊢
  exact fun t ht htest => hnil t ht (h t htest)

/-- A test that more texts pass is affirmed at least where the other is. -/
theorem verdictOf_someText_le {test test' : String → Bool} (hdata : c.data ≠ [] → c'.data ≠ [])
    (h : ∀ t, test t → test' t) :
    verdictOf (someText reducers test c states) ≤ verdictOf (someText reducers test' c' states) := by
  unfold someText
  split
  · exact bot_le
  · rename_i hsome
    simp only [Bool.or_eq_true, List.isEmpty_iff, not_or] at hsome
    rw [if_neg (by simpa using ⟨hdata hsome.1, hsome.2⟩)]
    exact verdictOf_search_le fun s _ => findsMore_lookForTexts h s

/-- A judgement is at least another if it is decided and something is found where that is so for the
other. -/
theorem Shows.verdict_le {v v' : Option Judgement} {decided decided' : Bool}
    {x x' : Option Finding} (h : Shows v decided x) (h' : Shows v' decided' x')
    (hdecided : decided = true → decided' = true) (hfound : x.isSome = true → x'.isSome = true) :
    verdict v ≤ verdict v' := by
  obtain ⟨rfl, haffirmed⟩ := h
  obtain ⟨rfl, haffirmed'⟩ := h'
  rcases v with _ | ⟨_ | _, f⟩
  · exact bot_le
  · obtain ⟨w, rfl⟩ := Option.isSome_iff_exists.mp (hdecided rfl)
    exact WithBot.coe_le_coe.mpr (Bool.false_le _)
  · cases x with
    | none => simp [affirmed] at haffirmed
    | some x =>
      obtain ⟨x', rfl⟩ := Option.isSome_iff_exists.mp (hfound rfl)
      rw [eq_of_affirmed_eq_some haffirmed']
      exact le_rfl

theorem verdictOf_someKey_le (h : c.data ⊆ c'.data) :
    verdictOf (someKey reducers c states) ≤ verdictOf (someKey reducers c' states) := by
  cases hdata : c.data.isEmpty with
  | true =>
    rw [someKey, if_pos hdata]
    exact bot_le
  | false =>
    have hdata' : c'.data.isEmpty = false := by
      rw [List.isEmpty_eq_false_iff] at hdata ⊢
      exact mt (fun hnil => List.subset_nil.mp (hnil ▸ h)) hdata
    cases hv : someKey reducers c states with
    | fault => exact bot_le
    | value v =>
      obtain ⟨v', hv'⟩ : ∃ v', someKey reducers c' states = .value v' := by
        refine exists_someKey fun s hs => ?_
        rw [someKey, hdata] at hv
        obtain ⟨keyed, hkeyed, -⟩ := Outcome.andThen_eq_value_iff.mp hv
        obtain ⟨ks, -, hks⟩ := Outcome.exists_mem_of_forEach hkeyed hs
        exact ⟨ks, hks⟩
      obtain ⟨keyed, hkeyed, hshows⟩ := shows_someKey hdata hv
      obtain ⟨keyed', hkeyed', hshows'⟩ := shows_someKey hdata' hv'
      obtain rfl := Outcome.value.inj (hkeyed.symm.trans hkeyed')
      rw [hv']
      refine hshows.verdict_le hshows' id ?_
      rw [Option.isSome_map, Option.isSome_map, List.find?_isSome, List.find?_isSome]
      rintro ⟨hits, hhits, hsome⟩
      obtain ⟨ks, hks, rfl⟩ := List.mem_map.mp hhits
      refine ⟨_, List.mem_map_of_mem hks, ?_⟩
      simp only [Bool.not_eq_true', List.isEmpty_eq_false_iff] at hsome ⊢
      refine mt (fun hnil => ?_) hsome
      rw [List.filter_eq_nil_iff] at hnil ⊢
      intro k hk hwanted
      exact hnil k hk (List.contains_iff_mem.mpr (h (List.contains_iff_mem.mp hwanted)))

/-! ### Parts -/

/-- Whatever the test is, if enough of some entries pass it, then so do enough of others. -/
def EnoughGives {α : Type} (all all' : Bool) (as as' : List α) : Prop :=
  ∀ test : α → Bool, isEnough all (as.filter test).length as.length = true →
    isEnough all' (as'.filter test).length as'.length = true

section

variable {α : Type} {as as' : List α}

theorem isEnough_all_iff (test : α → Bool) :
    isEnough true (as.filter test).length as.length = true ↔ as ≠ [] ∧ ∀ a ∈ as, test a = true := by
  simp [isEnough, List.length_filter_eq_length_iff, List.length_pos_iff, and_comm]

theorem isEnough_any_iff (test : α → Bool) :
    isEnough false (as.filter test).length as.length = true ↔ ∃ a ∈ as, test a = true := by
  simp [isEnough, List.length_pos_iff]

theorem enoughGives_of_subset (h : as ⊆ as') : EnoughGives false false as as' := by
  intro test
  rw [isEnough_any_iff, isEnough_any_iff]
  exact fun ⟨a, ha, hpasses⟩ => ⟨a, h ha, hpasses⟩

/-- If all of more entries are there, then so are all of some, if there are some. -/
theorem enoughGives_of_superset (h : as ⊆ as') (hne : as ≠ []) : EnoughGives true true as' as := by
  intro test
  rw [isEnough_all_iff, isEnough_all_iff]
  exact fun ⟨_, hall⟩ => ⟨hne, fun a ha => hall a (h ha)⟩

theorem enoughGives_any : EnoughGives true false as as := by
  intro test
  rw [isEnough_all_iff, isEnough_any_iff]
  rintro ⟨hne, hall⟩
  obtain ⟨a, ha⟩ := List.exists_mem_of_ne_nil as hne
  exact ⟨a, ha, hall a ha⟩

end

/-- Wherever a state has enough of the entries of one operand, it has enough of those of another. -/
def PartsGive (all all' : Bool) : Operand → Operand → Prop
  | .none, .none => True
  | .list data, .list data' => EnoughGives all all' data data'
  | .dict pairs, .dict pairs' => EnoughGives all all' pairs pairs'
  | _, _ => False

theorem findsMore_lookForParts {all all' : Bool} (h : PartsGive all all' c.operand c'.operand)
    (s : State) : FindsMore (lookForParts reducers all c s) (lookForParts reducers all' c' s) := by
  have hfound : ∀ {b b' : Bool} {x y : Finding}, (b = true → b' = true) →
      (if b then some x else none).isSome = true → (if b' then some y else none).isSome = true := by
    intro b b' x y hb
    cases b <;> simp_all
  unfold lookForParts
  cases ho : c.operand <;> cases ho' : c'.operand <;> rw [ho, ho'] at h
  case none.none => exact .value id
  case list.list data data' =>
    cases s with
    | flags f => exact .value (hfound (h _))
    | text t => exact .value (hfound (h _))
    | _ => exact .andThen _ fun ts _ => .value (hfound (h _))
  case dict.dict pairs pairs' => exact .andThen _ fun ps _ => .value (hfound (h _))
  all_goals exact h.elim

theorem verdictOf_someParts_le {all all' : Bool} (hentry : c.operand.HasEntry → c'.operand.HasEntry)
    (h : PartsGive all all' c.operand c'.operand) :
    verdictOf (someParts reducers all c states) ≤ verdictOf (someParts reducers all' c' states) := by
  have hguard : ∀ c : Clause,
      ((c.data.isEmpty && c.dictData.isEmpty) || states.isEmpty) = true ↔
        ¬(c.operand.HasEntry ∧ states ≠ []) := by
    intro c
    simp only [Bool.or_eq_true, Bool.and_eq_true, List.isEmpty_iff, Operand.HasEntry, Clause.data,
      Clause.dictData]
    tauto
  unfold someParts
  split
  · exact bot_le
  · rename_i hsome
    rw [hguard, not_not] at hsome
    rw [if_neg (by rw [hguard, not_not]; exact hsome.imp_left hentry)]
    exact verdictOf_search_le fun s _ => findsMore_lookForParts h s

theorem partsGive_of_within {o o' : Operand} (h : o.Within o') : PartsGive false false o o' := by
  cases o <;> cases o'
  case none.none => trivial
  case list.list => exact enoughGives_of_subset h
  case dict.dict => exact enoughGives_of_subset h
  all_goals exact h.elim

theorem partsGive_of_contains {o o' : Operand} (h : o.Within o') (ho : o.HasEntry) :
    PartsGive true true o' o := by
  cases o <;> cases o'
  case none.none => trivial
  case list.list =>
    exact enoughGives_of_superset h (ho.resolve_right fun hne => hne rfl)
  case dict.dict =>
    exact enoughGives_of_superset h (ho.resolve_left fun hne => hne rfl)
  all_goals exact h.elim

theorem partsGive_any (o : Operand) : PartsGive true false o o := by
  cases o with
  | none => trivial
  | list data => exact enoughGives_any
  | dict pairs => exact enoughGives_any

/-! ### Instants -/

theorem verdictOf_someInstant_le {compare : Instant → Instant → Bool} (h : c.data ⊆ c'.data) :
    verdictOf (.value (someInstant compare c states)) ≤
      verdictOf (.value (someInstant compare c' states)) := by
  have hthresholds : c.data.filterMap Instant.read? ⊆ c'.data.filterMap Instant.read? :=
    List.filterMap_subset _ h
  unfold someInstant
  split
  · exact bot_le
  · rename_i thresholds hne
    split
    · rename_i hnil
      exact absurd (List.subset_nil.mp (hnil ▸ hthresholds)) hne
    · refine (shows_firstPassing _ _ _).verdict_le (shows_firstPassing _ _ _) id ?_
      rw [Option.isSome_map, Option.isSome_map, List.find?_isSome, List.find?_isSome]
      rintro ⟨t, ht, hpasses⟩
      obtain ⟨u, hu, hcompare⟩ := List.any_eq_true.mp hpasses
      exact ⟨t, ht, List.any_eq_true.mpr ⟨u, hthresholds hu, hcompare⟩⟩

/-! ### Clauses -/

variable {o o' : Operand} {now : Instant} {pattern : Option Pattern} {state1 state2 : Option State}

/-- An operation that looks for one of the entries is affirmed with more of them at least where it was
before. -/
theorem verdictOf_ofClause_le (hseeks : c.operation.seeksOne = true) (h : o.Within o') :
    verdictOf (ofClause reducers now pattern (c.withOperand o) state1 state2) ≤
      verdictOf (ofClause reducers now pattern (c.withOperand o') state1 state2) := by
  have hsubset : (c.withOperand o).data ⊆ (c.withOperand o').data := h.data_subset
  have hdata : (c.withOperand o).data ≠ [] → (c.withOperand o').data ≠ [] :=
    mt fun hnil => List.subset_nil.mp (hnil ▸ hsubset)
  have hany : ∀ (p : String → String → Bool) (t : String), (c.withOperand o).data.any (p t) = true →
      (c.withOperand o').data.any (p t) = true := by
    intro p t ht
    obtain ⟨d, hd, hpasses⟩ := List.any_eq_true.mp ht
    exact List.any_eq_true.mpr ⟨d, hsubset hd, hpasses⟩
  unfold ofClause
  have hop : ∀ o, (c.withOperand o).operation = c.operation := fun _ => rfl
  rw [hop, hop]
  cases hoperation : c.operation
  case equals =>
    exact verdictOf_someText_le hdata fun t ht =>
      List.contains_iff_mem.mpr (hsubset (List.contains_iff_mem.mp ht))
  case startsWith => exact verdictOf_someText_le hdata (hany Text.startsWith)
  case endsWith => exact verdictOf_someText_le hdata (hany Text.endsWith)
  case containsKey => exact verdictOf_someKey_le hsubset
  case containsAny => exact verdictOf_someParts_le h.hasEntry (partsGive_of_within h)
  case isBefore => exact verdictOf_someInstant_le hsubset
  case isAfter => exact verdictOf_someInstant_le hsubset
  all_goals simp [hoperation, Operation.seeksOne] at hseeks

/-- An operation that looks for all entries is affirmed with more of them at most where it was
before. -/
theorem verdictOf_contains_le (hcontains : c.operation = .contains) (h : o.Within o')
    (ho : o.HasEntry) :
    verdictOf (ofClause reducers now pattern (c.withOperand o') state1 state2) ≤
      verdictOf (ofClause reducers now pattern (c.withOperand o) state1 state2) := by
  have hop : ∀ o, (c.withOperand o).operation = .contains := fun _ => hcontains
  rw [ofClause, ofClause, hop, hop]
  exact verdictOf_someParts_le (fun _ => ho) (partsGive_of_contains h ho)

/-- All entries are found at most where one of them is. -/
theorem verdictOf_containsAny_ge (c : Clause) :
    verdictOf (ofClause reducers now pattern { c with operation := .contains } state1 state2) ≤
      verdictOf (ofClause reducers now pattern { c with operation := .containsAny } state1 state2) := by
  have hall : PartsGive true false ({ c with operation := .contains } : Clause).operand
      ({ c with operation := .containsAny } : Clause).operand := partsGive_any c.operand
  exact verdictOf_someParts_le id hall

end Judgement

end RuleMatching
