import RuleMatching.State.Reduction

/-!
The pairs of a map.  A map has pairs of its own only if each of its entries is plain, which is to say
a scalar or a list of scalars; then they are the keys with the texts of their entries.  One entry that
is not plain leaves the map without pairs, unless a reducer knows better:
`State.exists_pairs_reduce_iff`.
-/

set_option autoImplicit false
set_option relaxedAutoImplicit false

namespace RuleMatching.State

/-- A scalar, or a list of scalars. -/
def IsPlain : State → Prop
  | list size item => ∀ i < size, (item i).isScalar = true
  | s => s.isScalar = true

/-- A scalar is written in this way, or an item of a list is. -/
def Writes (text : String) : State → Prop
  | list size item => ∃ i < size, (item i).scalarText? = some text
  | s => s.scalarText? = some text

private theorem mem_mapM_iff {α β : Type} {f : α → Option β} {as : List α} {bs : List β}
    (h : as.mapM f = some bs) {b : β} : b ∈ bs ↔ ∃ a ∈ as, f a = some b := by
  induction as generalizing bs with
  | nil =>
    obtain rfl : [] = bs := by simpa using h
    simp
  | cons a as ih =>
    simp only [List.mapM_cons, Option.bind_eq_bind, Option.bind_eq_some_iff, Option.pure_def,
      Option.some.injEq] at h
    obtain ⟨b', hb', bs', hbs', rfl⟩ := h
    simp [ih hbs', hb', eq_comm]

private theorem isSome_mapM_iff {α β : Type} {f : α → Option β} {as : List α} :
    (as.mapM f).isSome = true ↔ ∀ a ∈ as, (f a).isSome = true := by
  induction as with
  | nil => simp
  | cons a as ih =>
    rw [List.mapM_cons, List.forall_mem_cons, ← ih]
    cases f a <;> cases as.mapM f <;> simp

theorem isSome_entryTexts?_iff {s : State} : s.entryTexts?.isSome = true ↔ s.IsPlain := by
  cases s with
  | list size item => simp [entryTexts?, scalarTexts?, isSome_mapM_iff, IsPlain, isScalar]
  | _ => simp [entryTexts?, IsPlain, isScalar]

theorem mem_entryTexts?_iff {s : State} {texts : List String} (h : s.entryTexts? = some texts)
    {text : String} : text ∈ texts ↔ s.Writes text := by
  cases s with
  | list size item => simp [mem_mapM_iff h, Writes]
  | _ =>
    simp only [entryTexts?, Option.map_eq_some_iff] at h
    obtain ⟨t, ht, rfl⟩ := h
    simp [Writes, ht, eq_comm]

section Entries

variable {entry : String → State} {names : List String} {ps : List (String × String)}

theorem isSome_entryPairs?_iff :
    (entryPairs? entry names).isSome = true ↔ ∀ k ∈ names, (entry k).IsPlain := by
  induction names with
  | nil => simp [entryPairs?]
  | cons k ks ih =>
    rw [entryPairs?, List.forall_mem_cons, ← ih, ← isSome_entryTexts?_iff]
    cases (entry k).entryTexts? <;> cases entryPairs? entry ks <;> simp

theorem mem_entryPairs?_iff (h : entryPairs? entry names = some ps) {key text : String} :
    (key, text) ∈ ps ↔ key ∈ names ∧ (entry key).Writes text := by
  induction names generalizing ps with
  | nil =>
    obtain rfl : [] = ps := Option.some.inj h
    simp
  | cons k ks ih =>
    simp only [entryPairs?, Option.bind_eq_bind, Option.bind_eq_some_iff, Option.some.injEq] at h
    obtain ⟨texts, htexts, rest, hrest, rfl⟩ := h
    have hfirst : (key, text) ∈ texts.map (fun t => (k, t)) ↔
        key = k ∧ (entry key).Writes text := by
      constructor
      · intro hmem
        obtain ⟨t, ht, heq⟩ := List.mem_map.mp hmem
        obtain ⟨rfl, rfl⟩ := Prod.mk.inj heq
        exact ⟨rfl, (mem_entryTexts?_iff htexts).mp ht⟩
      · rintro ⟨rfl, hwrites⟩
        exact List.mem_map_of_mem ((mem_entryTexts?_iff htexts).mpr hwrites)
    rw [List.mem_append, hfirst, ih hrest, List.mem_cons, or_and_right]

end Entries

/-- All entries of a map are plain, and the one for a key is written in this way. -/
structure HasPair (keys : NameSet) (entry : String → State) (key text : String) : Prop where
  plain : ∀ k ∈ keys, (entry k).IsPlain
  mem_keys : key ∈ keys
  writes : (entry key).Writes text

/-- If no reducer is there, a map comes down to pairs with a certain one among them just if it has
that pair. -/
theorem exists_pairs_reduce_iff {keys : NameSet} {entry : String → State} {key text : String} :
    (∃ x, (map keys entry).reduce [] = .value x ∧ (key, text) ∈ x.pairs) ↔
      HasPair keys entry key text := by
  have hplain := @isSome_entryPairs?_iff entry keys.names
  rw [reduce, ownForm?]
  cases hpairs : entryPairs? entry keys.names with
  | some ps =>
    have hmem := @mem_entryPairs?_iff entry keys.names ps hpairs key text
    simp only [hpairs, Option.isSome_some, true_iff] at hplain
    constructor
    · rintro ⟨x, hx, hkey⟩
      obtain rfl : Reduction.ofPairs ps = x := Outcome.value.inj hx
      obtain ⟨hkey, hwrites⟩ := hmem.mp hkey
      exact ⟨hplain, hkey, hwrites⟩
    · rintro ⟨-, hkey, hwrites⟩
      exact ⟨_, rfl, hmem.mpr ⟨hkey, hwrites⟩⟩
  | none =>
    constructor
    · rintro ⟨x, hx, hkey⟩
      obtain ⟨t, -, hx⟩ := Outcome.andThen_eq_value_iff.mp hx
      obtain rfl : Reduction.ofText t = x := Outcome.value.inj hx
      simp [Reduction.ofText, Reduction.ofTexts] at hkey
    · rintro ⟨hall, -, -⟩
      simpa [hpairs] using hplain.mpr hall

/-- The entries of a map with further ones for new keys, all of which are plain. -/
structure ExtendsPlainly (keys : NameSet) (entry : String → State) (keys' : NameSet)
    (entry' : String → State) : Prop where
  keeps : ∀ k ∈ keys, k ∈ keys' ∧ entry' k = entry k
  plain : ∀ k ∈ keys', k ∉ keys → (entry' k).IsPlain

/-- Further plain entries leave a map the pairs that it has. -/
theorem HasPair.extend {keys keys' : NameSet} {entry entry' : String → State} {key text : String}
    (h : HasPair keys entry key text) (hextends : ExtendsPlainly keys entry keys' entry') :
    HasPair keys' entry' key text := by
  obtain ⟨hmem, hkept⟩ := hextends.keeps key h.mem_keys
  refine ⟨?_, hmem, by rw [hkept]; exact h.writes⟩
  intro k hk
  by_cases hold : k ∈ keys
  · rw [(hextends.keeps k hold).2]
    exact h.plain k hold
  · exact hextends.plain k hk hold

end RuleMatching.State
