import Mathlib.Tactic.ByContra
import Mathlib.Tactic.Tauto
import RuleMatching.Judgement.BuiltIn

/-!
When a built-in operation can be decided.  The operand of its clause has to serve, and the states
have to be such that there is something to look at.  Unless something faults, there is a judgement
just if both is the case: `ofClause_decidedIff`.  Nothing faults if the states can be read:
`exists_ofClause`.  Whether the clause is inverted plays no part in that.
-/

set_option autoImplicit false
set_option relaxedAutoImplicit false

namespace RuleMatching

/-- Each element has its value among the values. -/
theorem Outcome.exists_mem_of_forEach {α β : Type} {f : α → Outcome β} {as : List α} {bs : List β}
    (h : forEach f as = value bs) {a : α} (ha : a ∈ as) : ∃ b ∈ bs, f a = value b := by
  induction as generalizing bs with
  | nil => simp at ha
  | cons a' as ih =>
    rw [forEach] at h
    obtain ⟨b, hb, h⟩ := andThen_eq_value_iff.mp h
    obtain ⟨bs', hbs, h⟩ := andThen_eq_value_iff.mp h
    obtain rfl : b :: bs' = bs := value.inj h
    rcases List.mem_cons.mp ha with rfl | ha
    · exact ⟨b, List.mem_cons_self, hb⟩
    · obtain ⟨b', hb', hfa⟩ := ih hbs ha
      exact ⟨b', List.mem_cons_of_mem b hb', hfa⟩

namespace Judgement

/-! ### The conditions -/

/-- Whether the operand of a clause is one that its operation can be decided with. -/
def OperandServes (sizeLimit : Option Nat) (c : Clause) : Prop :=
  match c.operation with
  | .equals | .startsWith | .endsWith | .containsKey => c.data ≠ []
  | .contains | .containsAny => c.data ≠ [] ∨ c.dictData ≠ []
  | .lessThan | .greaterThan => ∃ d ∈ c.data.head?, (integer? d).isSome
  | .regex => c.data ≠ [] ∧ Pattern.isValid sizeLimit (Text.joinWith "|" c.data)
  | .isBefore | .isAfter => ∃ d ∈ c.data, (Instant.read? d).isSome
  | .isNull | .isTrue | .wasModified | .isExpired => True
  | .custom => False

/-- A state has a key. -/
def HasKey (reducers : List Reducer) (s : State) : Prop :=
  ∃ ks, keysOf reducers s = .value ks ∧ ks ≠ []

/-- A state has an integer among its texts. -/
def HasInteger (reducers : List Reducer) (s : State) : Prop :=
  ∃ ts, textsOf reducers s = .value ts ∧ ∃ t ∈ ts, (integer? t).isSome

/-- Whether there is something in the states that the operation of a clause can be decided on. -/
def StatesServe (reducers : List Reducer) (c : Clause) (states : List State) : Prop :=
  match c.operation with
  | .equals | .startsWith | .endsWith | .contains | .containsAny | .regex => states ≠ []
  | .containsKey => ∃ s ∈ states, HasKey reducers s
  | .lessThan | .greaterThan => ∃ s ∈ states, HasInteger reducers s
  | .isTrue => ∃ s ∈ states, ∃ b, s = .bool b
  | .isBefore | .isAfter | .isExpired => ∃ s ∈ states, s.instant?.isSome
  | .isNull | .wasModified => True
  | .custom => False

/-- Unless there is a fault, there is a judgement just if something holds. -/
def DecidedIff (o : Outcome (Option Judgement)) (p : Prop) : Prop :=
  ∀ v, o = .value v → (v.isSome = true ↔ p)

theorem DecidedIff.of_judgement {p : Prop} {v : Judgement} (hp : p) :
    DecidedIff (.value (some v)) p := by
  intro w hw
  obtain rfl := Outcome.value.inj hw
  exact iff_of_true rfl hp

theorem DecidedIff.of_none {p : Prop} (hp : ¬p) : DecidedIff (.value none) p := by
  intro w hw
  obtain rfl := Outcome.value.inj hw
  exact iff_of_false (by simp) hp

theorem DecidedIff.andThen {α : Type} {p : Prop} {o : Outcome α}
    {f : α → Outcome (Option Judgement)} (h : ∀ a, o = .value a → DecidedIff (f a) p) :
    DecidedIff (o.andThen f) p := by
  intro v hv
  obtain ⟨a, ha, hf⟩ := Outcome.andThen_eq_value_iff.mp hv
  exact h a ha v hf

variable {reducers : List Reducer} {states : List State} {c : Clause}

/-! ### One operation after the other -/

/-- A search comes to a judgement, whether it finds something or not. -/
theorem search_decidedIff (look : State → Outcome (Option Finding)) {p : Prop} (hp : p) :
    DecidedIff (search reducers look states) p := by
  refine .andThen fun x _ => ?_
  cases x with
  | some x => exact .of_judgement hp
  | none => exact .andThen fun ts _ => .of_judgement hp

theorem someText_decidedIff (test : String → Bool) :
    DecidedIff (someText reducers test c states) (c.data ≠ [] ∧ states ≠ []) := by
  rw [someText]
  split
  · rename_i hempty
    refine .of_none ?_
    simp only [Bool.or_eq_true, List.isEmpty_iff] at hempty
    tauto
  · rename_i hsome
    exact search_decidedIff _ (by simpa using hsome)

theorem someParts_decidedIff (all : Bool) :
    DecidedIff (someParts reducers all c states)
      ((c.data ≠ [] ∨ c.dictData ≠ []) ∧ states ≠ []) := by
  rw [someParts]
  split
  · rename_i hempty
    refine .of_none ?_
    simp only [Bool.or_eq_true, Bool.and_eq_true, List.isEmpty_iff] at hempty
    tauto
  · rename_i hsome
    refine search_decidedIff _ ?_
    simp only [Bool.or_eq_true, Bool.and_eq_true, List.isEmpty_iff] at hsome
    tauto

theorem someKey_decidedIff :
    DecidedIff (someKey reducers c states)
      (c.data ≠ [] ∧ ∃ s ∈ states, HasKey reducers s) := by
  rw [someKey]
  split
  · rename_i hempty
    exact .of_none fun hp => hp.1 (List.isEmpty_iff.mp hempty)
  · rename_i hdata
    refine .andThen fun keyed hkeyed => ?_
    have hkeys : keyed.flatten = [] ↔ ¬∃ s ∈ states, HasKey reducers s := by
      rw [List.flatten_eq_nil_iff, not_exists]
      constructor
      · rintro hnil s ⟨hs, ks, hks, hne⟩
        obtain ⟨ks', hmem, hks'⟩ := Outcome.exists_mem_of_forEach hkeyed hs
        obtain rfl : ks = ks' := Outcome.value.inj (hks.symm.trans hks')
        exact hne (hnil ks hmem)
      · intro hnone ks hmem
        obtain ⟨s, hs, hks⟩ := Outcome.exists_of_mem_forEach hkeyed hmem
        by_contra hne
        exact hnone s ⟨hs, ks, hks, hne⟩
    split
    · rename_i hempty
      exact .of_none fun hp => hkeys.mp (List.isEmpty_iff.mp hempty) hp.2
    · rename_i hsome
      have hp : c.data ≠ [] ∧ ∃ s ∈ states, HasKey reducers s := by
        refine ⟨fun hnil => hdata (List.isEmpty_iff.mpr hnil), ?_⟩
        by_contra hnone
        exact hsome (List.isEmpty_iff.mpr (hkeys.mpr hnone))
      split
      · exact .of_judgement hp
      · exact .of_judgement hp

theorem isSome_firstPassing {α : Type} (test : α → Bool) (find : α → Finding) (as : List α) :
    (firstPassing test find as).isSome = true ↔ as ≠ [] := by
  cases as with
  | nil => simp [firstPassing]
  | cons a as =>
    rw [firstPassing]
    split <;> simp

theorem filterMap_ne_nil_iff {α β : Type} {f : α → Option β} {as : List α} :
    as.filterMap f ≠ [] ↔ ∃ a ∈ as, (f a).isSome = true := by
  rw [ne_eq, List.filterMap_eq_nil_iff]
  simp [Option.isSome_iff_ne_none]

/-- The texts of states are those of each state. -/
theorem mem_allTexts {ts : List String} (h : allTexts reducers states = .value ts) {t : String} :
    t ∈ ts ↔ ∃ s ∈ states, ∃ us, textsOf reducers s = .value us ∧ t ∈ us := by
  obtain ⟨tss, htss, h⟩ := Outcome.andThen_eq_value_iff.mp h
  obtain rfl := Outcome.value.inj h
  rw [List.mem_flatten]
  constructor
  · rintro ⟨us, hus, ht⟩
    obtain ⟨s, hs, htexts⟩ := Outcome.exists_of_mem_forEach htss hus
    exact ⟨s, hs, us, htexts, ht⟩
  · rintro ⟨s, hs, us, htexts, ht⟩
    obtain ⟨us', hus', htexts'⟩ := Outcome.exists_mem_of_forEach htss hs
    obtain rfl : us = us' := Outcome.value.inj (htexts.symm.trans htexts')
    exact ⟨us, hus', ht⟩

theorem someInteger_decidedIff (compare : Int64 → Int64 → Bool) :
    DecidedIff (someInteger reducers compare c states)
      ((∃ d ∈ c.data.head?, (integer? d).isSome) ∧ ∃ s ∈ states, HasInteger reducers s) := by
  rw [someInteger]
  cases hthreshold : c.data.head?.bind integer? with
  | none =>
    refine .of_none ?_
    rintro ⟨⟨d, hd, hinteger⟩, -⟩
    rw [Option.mem_def.mp hd, Option.bind_some] at hthreshold
    simp [hthreshold] at hinteger
  | some threshold =>
    refine .andThen fun ts hts v hv => ?_
    obtain rfl := Outcome.value.inj hv
    rw [isSome_firstPassing, filterMap_ne_nil_iff]
    obtain ⟨d, hd, hinteger⟩ := Option.bind_eq_some_iff.mp hthreshold
    constructor
    · rintro ⟨t, ht, hsome⟩
      obtain ⟨s, hs, us, hus, ht⟩ := (mem_allTexts hts).mp ht
      exact ⟨⟨d, hd, by rw [hinteger]; rfl⟩, s, hs, us, hus, t, ht, hsome⟩
    · rintro ⟨-, s, hs, us, hus, t, ht, hsome⟩
      exact ⟨t, (mem_allTexts hts).mpr ⟨s, hs, us, hus, ht⟩, hsome⟩

theorem somePattern_decidedIff (pattern : Option Pattern) :
    DecidedIff (somePattern reducers pattern c states)
      (c.data ≠ [] ∧ states ≠ [] ∧ pattern.isSome = true) := by
  unfold somePattern
  split
  · rename_i hempty
    refine .of_none ?_
    simp only [Bool.or_eq_true, List.isEmpty_iff] at hempty
    tauto
  · rename_i hsome
    simp only [Bool.or_eq_true, List.isEmpty_iff, not_or] at hsome
    cases pattern with
    | none => exact .of_none (by simp)
    | some p => exact search_decidedIff _ ⟨hsome.1, hsome.2, rfl⟩

theorem someTrue_decidedIff :
    DecidedIff (.value (someTrue states)) (∃ s ∈ states, ∃ b, s = .bool b) := by
  have hbool : states.filterMap State.bool? ≠ [] ↔ ∃ s ∈ states, ∃ b, s = .bool b := by
    rw [filterMap_ne_nil_iff]
    refine exists_congr fun s => and_congr_right fun _ => ?_
    cases s <;> simp [State.bool?]
  rw [someTrue]
  split
  · rename_i hnil
    exact .of_none fun hp => hbool.mpr hp hnil
  · rename_i hne
    exact .of_judgement (hbool.mp hne)

theorem firstPassing_decidedIff {α : Type} (test : α → Bool) (find : α → Finding) {as : List α}
    {p : Prop} (hp : as ≠ [] ↔ p) : DecidedIff (.value (firstPassing test find as)) p := by
  intro v hv
  obtain rfl := Outcome.value.inj hv
  exact (isSome_firstPassing test find as).trans hp

theorem someInstant_decidedIff (compare : Instant → Instant → Bool) :
    DecidedIff (.value (someInstant compare c states))
      ((∃ d ∈ c.data, (Instant.read? d).isSome) ∧ ∃ s ∈ states, s.instant?.isSome) := by
  rw [someInstant, ← filterMap_ne_nil_iff, ← filterMap_ne_nil_iff]
  split
  · rename_i hnil
    exact .of_none fun hp => hp.1 hnil
  · rename_i hne
    exact firstPassing_decidedIff _ _ (and_iff_right hne).symm

/-- Unless there is a fault, there is a judgement just if the operand serves and the states do. -/
theorem ofClause_decidedIff (hbuiltIn : c.operation ≠ .custom) {state1 state2 : Option State}
    {sizeLimit : Option Nat} {pattern : Option Pattern}
    (hpattern : c.operation = .regex → c.data ≠ [] → present state1 state2 ≠ [] →
      pattern = Pattern.ofText? sizeLimit (patternText c)) (now : Instant) :
    DecidedIff (ofClause reducers now pattern c state1 state2)
      (OperandServes sizeLimit c ∧ StatesServe reducers c (present state1 state2)) := by
  unfold ofClause OperandServes StatesServe
  cases hoperation : c.operation with
  | equals => exact someText_decidedIff _
  | startsWith => exact someText_decidedIff _
  | endsWith => exact someText_decidedIff _
  | contains => exact someParts_decidedIff true
  | containsAny => exact someParts_decidedIff false
  | containsKey => exact someKey_decidedIff
  | lessThan => exact someInteger_decidedIff _
  | greaterThan => exact someInteger_decidedIff _
  | regex =>
    intro v hv
    refine (somePattern_decidedIff pattern v hv).trans ?_
    rw [and_assoc, and_comm (a := Pattern.isValid sizeLimit _ = true)]
    refine and_congr_right fun hdata => and_congr_right fun hpresent => ?_
    rw [hpattern hoperation hdata hpresent]
    rfl
  | isTrue =>
    rw [true_and]
    exact someTrue_decidedIff
  | isBefore => exact someInstant_decidedIff _
  | isAfter => exact someInstant_decidedIff _
  | isExpired =>
    rw [true_and]
    exact firstPassing_decidedIff _ _ filterMap_ne_nil_iff
  | isNull => exact .of_judgement ⟨trivial, trivial⟩
  | wasModified => exact .andThen fun ds _ => .of_judgement ⟨trivial, trivial⟩
  | custom => exact absurd hoperation hbuiltIn

/-! ### Where nothing faults -/

/-- Nothing faults when states are brought down to texts and pairs or when their keys are listed. -/
structure Readable (reducers : List Reducer) (states : List State) : Prop where
  reduces : ∀ s ∈ states, ∃ x, s.reduce reducers = .value x
  listsKeys : ∀ s ∈ states, ∃ ks, keysOf reducers s = .value ks

theorem Readable.exists_textsOf (h : Readable reducers states) :
    ∀ s ∈ states, ∃ ts, textsOf reducers s = .value ts := by
  intro s hs
  obtain ⟨x, hx⟩ := h.reduces s hs
  exact ⟨x.texts, by rw [textsOf, hx, Outcome.andThen_value]⟩

theorem Readable.exists_pairsOf (h : Readable reducers states) :
    ∀ s ∈ states, ∃ ps, pairsOf reducers s = .value ps := by
  intro s hs
  obtain ⟨x, hx⟩ := h.reduces s hs
  exact ⟨x.pairs, by rw [pairsOf, hx, Outcome.andThen_value]⟩

theorem Readable.exists_allTexts (h : Readable reducers states) :
    ∃ ts, allTexts reducers states = .value ts := by
  obtain ⟨tss, htss⟩ := Outcome.exists_forEach_eq_value h.exists_textsOf
  exact ⟨tss.flatten, by rw [allTexts, htss, Outcome.andThen_value]⟩

theorem exists_search (h : Readable reducers states) {look : State → Outcome (Option Finding)}
    (hlook : ∀ s ∈ states, ∃ x, look s = .value x) :
    ∃ v, search reducers look states = .value v := by
  have hfirst : ∀ ss : List State, (∀ s ∈ ss, ∃ x, look s = .value x) →
      ∃ x, firstFinding look ss = .value x := by
    intro ss hss
    induction ss with
    | nil => exact ⟨none, rfl⟩
    | cons s ss ih =>
      obtain ⟨x, hx⟩ := hss s List.mem_cons_self
      rw [firstFinding, hx, Outcome.andThen_value]
      cases x with
      | some x => exact ⟨some x, rfl⟩
      | none => exact ih fun s hs => hss s (List.mem_cons_of_mem _ hs)
  obtain ⟨x, hx⟩ := hfirst states hlook
  rw [search, hx, Outcome.andThen_value]
  cases x with
  | some x => exact ⟨_, rfl⟩
  | none =>
    obtain ⟨ts, hts⟩ := h.exists_allTexts
    exact ⟨_, by rw [hts, Outcome.andThen_value]⟩

theorem exists_someText (h : Readable reducers states) (test : String → Bool) :
    ∃ v, someText reducers test c states = .value v := by
  rw [someText]
  split
  · exact ⟨none, rfl⟩
  · refine exists_search h fun s hs => ?_
    obtain ⟨ts, hts⟩ := h.exists_textsOf s hs
    exact ⟨_, by rw [lookForTexts, hts, Outcome.andThen_value]⟩

theorem exists_someParts (h : Readable reducers states) (all : Bool) :
    ∃ v, someParts reducers all c states = .value v := by
  rw [someParts]
  split
  · exact ⟨none, rfl⟩
  · refine exists_search h fun s hs => ?_
    obtain ⟨ts, hts⟩ := h.exists_textsOf s hs
    obtain ⟨ps, hps⟩ := h.exists_pairsOf s hs
    unfold lookForParts
    split
    · exact ⟨_, rfl⟩
    · exact ⟨_, rfl⟩
    · exact ⟨_, by rw [hts, Outcome.andThen_value]⟩
    · exact ⟨_, by rw [hps, Outcome.andThen_value]⟩
    · exact ⟨_, rfl⟩

theorem exists_someKey (hkeys : ∀ s ∈ states, ∃ ks, keysOf reducers s = .value ks) :
    ∃ v, someKey reducers c states = .value v := by
  obtain ⟨keyed, hkeyed⟩ := Outcome.exists_forEach_eq_value hkeys
  rw [someKey, hkeyed, Outcome.andThen_value]
  repeat' split
  all_goals exact ⟨_, rfl⟩

theorem exists_someInteger (h : Readable reducers states) (compare : Int64 → Int64 → Bool) :
    ∃ v, someInteger reducers compare c states = .value v := by
  obtain ⟨ts, hts⟩ := h.exists_allTexts
  rw [someInteger]
  split
  · exact ⟨none, rfl⟩
  · exact ⟨_, by rw [hts, Outcome.andThen_value]⟩

theorem exists_somePattern (h : Readable reducers states) (pattern : Option Pattern) :
    ∃ v, somePattern reducers pattern c states = .value v := by
  unfold somePattern
  split
  · exact ⟨none, rfl⟩
  · cases pattern with
    | none => exact ⟨none, rfl⟩
    | some p =>
      refine exists_search h fun s hs => ?_
      obtain ⟨ts, hts⟩ := h.exists_textsOf s hs
      rw [lookForPattern, hts, Outcome.andThen_value]
      split
      · exact ⟨_, rfl⟩
      · exact ⟨_, rfl⟩

/-- Nothing faults if the states can be read, and compared where that is asked for. -/
theorem exists_ofClause {state1 state2 : Option State}
    (h : Readable reducers (present state1 state2))
    (hcompare : c.operation = .wasModified →
      ∀ limit, ∃ ds, State.differencesBetween state1 state2 limit = .value ds)
    (now : Instant) (pattern : Option Pattern) :
    ∃ v, ofClause reducers now pattern c state1 state2 = .value v := by
  unfold ofClause
  cases hoperation : c.operation with
  | equals => exact exists_someText h _
  | startsWith => exact exists_someText h _
  | endsWith => exact exists_someText h _
  | contains => exact exists_someParts h true
  | containsAny => exact exists_someParts h false
  | containsKey => exact exists_someKey h.listsKeys
  | lessThan => exact exists_someInteger h _
  | greaterThan => exact exists_someInteger h _
  | regex => exact exists_somePattern h pattern
  | wasModified =>
    obtain ⟨ds, hds⟩ := hcompare hoperation (if c.capture then State.unlimited else 1)
    exact ⟨_, by rw [modified, hds, Outcome.andThen_value]⟩
  | _ => exact ⟨_, rfl⟩

end Judgement

end RuleMatching
