import Mathlib.Data.Finset.Dedup
import Mathlib.Data.Finset.Card
import RuleMatching.Memo

/-!
What memories hold.  A memory from which texts were looked up one after the other knows just these
texts, each of them once, and has computed a value just once for each: `Memo.Exact`.  It never forgets
a value: `Memo.Grows`.
-/

set_option autoImplicit false
set_option relaxedAutoImplicit false

namespace RuleMatching.Memo

variable {α : Type} {f f' f'' : String → α} {m : Memo f} {m' : Memo f'} {m'' : Memo f''}
  {text : String} {asked : List String}

/-- The texts at which the value is known, the latest first. -/
def keys (m : Memo f) : List String := m.entries.map (·.1)

/-- Looks texts up one after the other. -/
def lookUpAll (m : Memo f) (texts : List String) : Memo f :=
  texts.foldl (fun m text => (m.lookUp text).1) m

theorem lookUpAll_append (m : Memo f) (texts texts' : List String) :
    m.lookUpAll (texts ++ texts') = (m.lookUpAll texts).lookUpAll texts' := by
  rw [lookUpAll, List.foldl_append]
  rfl

theorem find?_eq_none_iff : m.find? text = none ↔ text ∉ m.keys := by
  simp only [find?, Option.map_eq_none_iff, List.find?_eq_none, keys, List.mem_map, not_exists,
    not_and, beq_iff_eq]

theorem find?_of_mem (h : text ∈ m.keys) : m.find? text = some (f text) := by
  cases hfind : m.find? text with
  | none => exact absurd h (find?_eq_none_iff.mp hfind)
  | some a => rw [eq_of_find? hfind]

/-- A text that is known is looked up without a change. -/
theorem lookUp_of_mem (h : text ∈ m.keys) : (m.lookUp text).1 = m := by
  rw [lookUp, find?_of_mem h]

/-- A text that is not known is known first of all from then on, at one more computation. -/
theorem lookUp_of_not_mem (h : text ∉ m.keys) :
    (m.lookUp text).1 = m.insert text (f text) rfl := by
  rw [lookUp, find?_eq_none_iff.mpr h]

@[simp] theorem keys_insert (m : Memo f) (text : String) :
    (m.insert text (f text) rfl).keys = text :: m.keys := rfl

@[simp] theorem size_insert (m : Memo f) (text : String) :
    (m.insert text (f text) rfl).size = m.size + 1 := rfl

@[simp] theorem computed_insert (m : Memo f) (text : String) :
    (m.insert text (f text) rfl).computed = m.computed + 1 := rfl

/-! ### What is known -/

/-- Just the texts asked for are known, each once, and as many values have been computed. -/
structure Exact (m : Memo f) (asked : List String) : Prop where
  nodup : m.keys.Nodup
  mem_keys_iff : ∀ text, text ∈ m.keys ↔ text ∈ asked
  computed_eq : m.computed = m.size

theorem exact_empty : (empty : Memo f).Exact [] := ⟨List.nodup_nil, fun _ => Iff.rfl, rfl⟩

theorem Exact.lookUp (h : m.Exact asked) (text : String) :
    (m.lookUp text).1.Exact (asked ++ [text]) := by
  by_cases hmem : text ∈ m.keys
  · rw [lookUp_of_mem hmem]
    refine ⟨h.nodup, fun text' => ?_, h.computed_eq⟩
    rw [h.mem_keys_iff, List.mem_append, List.mem_singleton]
    refine ⟨.inl, ?_⟩
    rintro (hasked | rfl)
    · exact hasked
    · exact (h.mem_keys_iff text').mp hmem
  · rw [lookUp_of_not_mem hmem]
    refine ⟨List.nodup_cons.mpr ⟨hmem, h.nodup⟩, fun text' => ?_, ?_⟩
    · rw [keys_insert, List.mem_cons, List.mem_append, List.mem_singleton, h.mem_keys_iff, or_comm]
    · rw [computed_insert, size_insert, h.computed_eq]

theorem Exact.lookUpAll (h : m.Exact asked) (texts : List String) :
    (m.lookUpAll texts).Exact (asked ++ texts) := by
  induction texts generalizing m asked with
  | nil => rwa [List.append_nil]
  | cons text texts ih =>
    have hrest := ih (h.lookUp text)
    rwa [List.append_assoc] at hrest

/-- There are as many entries as different texts have been asked for. -/
theorem Exact.size_eq (h : m.Exact asked) : m.size = asked.toFinset.card := by
  have hsame : m.keys.toFinset = asked.toFinset := by
    ext text
    rw [List.mem_toFinset, List.mem_toFinset, h.mem_keys_iff]
  rw [← hsame, List.toFinset_card_of_nodup h.nodup, keys, List.length_map, size]

/-- The value at each text asked for is known, and no other. -/
theorem Exact.find?_eq (h : m.Exact asked) (text : String) :
    m.find? text = if text ∈ asked then some (f text) else none := by
  split
  · rename_i hasked
    exact find?_of_mem ((h.mem_keys_iff text).mpr hasked)
  · rename_i hasked
    exact find?_eq_none_iff.mpr fun hmem => hasked ((h.mem_keys_iff text).mp hmem)

/-! ### Growth -/

/-- One memory knows all that another knows, in the same order behind what it may know besides, and has
computed at least as often. -/
structure Grows (m : Memo f) (m' : Memo f') : Prop where
  entries_suffix : m.entries <:+ m'.entries
  find?_eq : ∀ text a, m.find? text = some a → m'.find? text = some a
  computed_le : m.computed ≤ m'.computed

theorem Grows.refl (m : Memo f) : m.Grows m := ⟨List.suffix_refl _, fun _ _ h => h, Nat.le_refl _⟩

theorem Grows.trans (h : m.Grows m') (h' : m'.Grows m'') : m.Grows m'' :=
  ⟨h.entries_suffix.trans h'.entries_suffix, fun text a ha => h'.find?_eq text a (h.find?_eq text a ha),
    h.computed_le.trans h'.computed_le⟩

theorem grows_lookUp (m : Memo f) (text : String) : m.Grows (m.lookUp text).1 := by
  by_cases hmem : text ∈ m.keys
  · rw [lookUp_of_mem hmem]
    exact .refl m
  · rw [lookUp_of_not_mem hmem]
    refine ⟨List.suffix_cons _ _, fun text' a ha => ?_, Nat.le_succ _⟩
    have hknown : text' ∈ m.keys := by
      by_contra hunknown
      rw [find?_eq_none_iff.mpr hunknown] at ha
      cases ha
    rw [find?_of_mem (by rw [keys_insert]; exact List.mem_cons_of_mem _ hknown), eq_of_find? ha]

theorem grows_lookUpAll (m : Memo f) (texts : List String) : m.Grows (m.lookUpAll texts) := by
  induction texts generalizing m with
  | nil => exact .refl m
  | cons text texts ih => exact (m.grows_lookUp text).trans (ih _)

end RuleMatching.Memo
