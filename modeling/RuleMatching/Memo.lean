/-!
Memories of a function on texts.  What the function gives for a text is computed when the text is
first looked up and kept from then on, failures included.  Every entry is what the function gives,
so an answer from the memory is the function's own: `lookUp_snd`.
-/

set_option autoImplicit false
set_option relaxedAutoImplicit false

namespace RuleMatching

/-- What is known of a function: its values at some texts, and how often a value was computed. -/
structure Memo {α : Type} (f : String → α) where
  entries : List (String × α)
  computed : Nat
  faithful : ∀ e ∈ entries, e.2 = f e.1

namespace Memo

variable {α : Type} {f : String → α}

def empty : Memo f := ⟨[], 0, by simp⟩

def find? (m : Memo f) (key : String) : Option α :=
  (m.entries.find? fun e => e.1 == key).map (·.2)

def contains (m : Memo f) (key : String) : Bool := (m.find? key).isSome

/-- The number of texts at which the value is known. -/
def size (m : Memo f) : Nat := m.entries.length

def isEmpty (m : Memo f) : Bool := m.entries.isEmpty

def insert (m : Memo f) (key : String) (a : α) (ha : a = f key) : Memo f where
  entries := (key, a) :: m.entries
  computed := m.computed + 1
  faithful := by
    intro e he
    rcases List.mem_cons.1 he with rfl | he
    · exact ha
    · exact m.faithful e he

/-- Looks a text up: the value known, or else the computed one, which is known from then on. -/
def lookUp (m : Memo f) (key : String) : Memo f × α :=
  match m.find? key with
  | some a => (m, a)
  | none =>
      let a := f key
      (m.insert key a rfl, a)

/-- What is known at a text is what the function gives. -/
theorem eq_of_find? {m : Memo f} {key : String} {a : α} (h : m.find? key = some a) :
    a = f key := by
  simp only [find?, Option.map_eq_some_iff] at h
  obtain ⟨e, he, rfl⟩ := h
  have hkey : e.1 = key := by simpa using List.find?_some he
  rw [m.faithful e (List.mem_of_find?_eq_some he), hkey]

/-- Looking a text up gives what the function gives. -/
@[simp] theorem lookUp_snd (m : Memo f) (key : String) : (m.lookUp key).2 = f key := by
  unfold lookUp
  cases h : m.find? key with
  | none => rfl
  | some a => exact eq_of_find? h

end Memo

end RuleMatching
