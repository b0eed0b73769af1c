import RuleMatching.Proofs.Text.Pieces
import RuleMatching.State.Difference
import RuleMatching.State.Path

/-!
Places inside a state.  A place is the list of the segments that lead to it, and its path writes them
with dots between.  As long as the segments are names, the path tells the place: cutting it up again
gives the segments back, and paths of different places differ.
-/

set_option autoImplicit false
set_option relaxedAutoImplicit false

namespace RuleMatching

/-- A text that can stand as one segment of a path. -/
def IsName (name : String) : Prop := name ≠ "" ∧ '.' ∉ name.toList

instance (name : String) : Decidable (IsName name) :=
  inferInstanceAs (Decidable (name ≠ "" ∧ '.' ∉ name.toList))

/-- The text of a number is a name. -/
theorem Numeral.isName_text (n : Nat) : IsName (text n) := by
  rw [IsName, text, String.toList_ofList, ne_eq, String.ofList_eq_empty_iff]
  refine ⟨digits_ne_nil n, ?_⟩
  intro hdot
  exact absurd (isDigit_of_mem_digits hdot) (by decide)

namespace State

/-- The path of a place. -/
def pathTo (place : List String) : String := Text.joinWith "." place

@[simp] theorem pathTo_nil : pathTo [] = "" := rfl

variable {place place' : List String}

theorem pathTo_ne_empty (hne : place ≠ []) (h : ∀ n ∈ place, IsName n) : pathTo place ≠ "" := by
  cases place with
  | nil => exact absurd rfl hne
  | cons n ns =>
    obtain ⟨hn, -⟩ := h n List.mem_cons_self
    cases ns with
    | nil => exact hn
    | cons m ns =>
      rw [pathTo, Text.joinWith]
      simp [hn]

/-- The path of a place one segment further down is the path of the longer place. -/
theorem childPath_pathTo (h : ∀ n ∈ place, IsName n) (name : String) :
    childPath (pathTo place) name = pathTo (place ++ [name]) := by
  rw [childPath]
  by_cases hne : place = []
  · rw [hne, pathTo_nil, if_pos rfl]
    rfl
  · rw [if_neg (pathTo_ne_empty hne h), pathTo, pathTo, Text.joinWith_concat "." hne]

/-- The segments of the path of a place are those of the place. -/
theorem segments_pathTo (h : ∀ n ∈ place, IsName n) : segments (pathTo place) = place := by
  rw [segments]
  by_cases hne : place = []
  · rw [hne, pathTo_nil, if_pos rfl]
  · rw [if_neg (pathTo_ne_empty hne h)]
    exact Text.pieces_joinWith hne fun n hn => (h n hn).2

theorem pathTo_injective (h : ∀ n ∈ place, IsName n) (h' : ∀ n ∈ place', IsName n)
    (heq : pathTo place = pathTo place') : place = place' := by
  rw [← segments_pathTo h, heq, segments_pathTo h']

end State

end RuleMatching
