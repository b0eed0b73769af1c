import RuleMatching.Text.Pieces

/-!
Pieces joined by a separator.  Cutting the text at the separator gives the pieces back, as long as
none of them holds it: `pieces_joinWith`.
-/

set_option autoImplicit false
set_option relaxedAutoImplicit false

namespace RuleMatching.Text

variable {sep : Char}

theorem split_of_not_mem {cs : List Char} (h : sep ∉ cs) : split sep cs = [cs] := by
  induction cs with
  | nil => rfl
  | cons c cs ih =>
    obtain ⟨hc, hcs⟩ : sep ≠ c ∧ sep ∉ cs := by simpa using h
    rw [split, if_neg hc.symm, ih hcs]

/-- The pieces of two texts with a separator between are those of the one and those of the other. -/
theorem split_append_separator (cs ds : List Char) :
    split sep (cs ++ sep :: ds) = split sep cs ++ split sep ds := by
  induction cs with
  | nil => simp [split]
  | cons c cs ih =>
    rw [List.cons_append, split, split, ih]
    split
    · rw [List.cons_append]
    · -- There is a first piece to put the character in front of.
      cases hpieces : split sep cs with
      | nil => exact absurd hpieces (split_ne_nil sep cs)
      | cons p ps => simp only [List.cons_append]

/-- What stands in front of a text without a separator stands in front of its first piece. -/
theorem split_append_of_not_mem {cs : List Char} (h : sep ∉ cs) {ds p : List Char}
    {ps : List (List Char)} (hsplit : split sep ds = p :: ps) :
    split sep (cs ++ ds) = (cs ++ p) :: ps := by
  induction cs with
  | nil => exact hsplit
  | cons c cs ih =>
    obtain ⟨hc, hcs⟩ : sep ≠ c ∧ sep ∉ cs := by simpa using h
    rw [List.cons_append, split, if_neg hc.symm, ih hcs, List.cons_append]

/-- The first piece of a text ends at the first separator. -/
theorem split_append_cons {cs : List Char} (h : sep ∉ cs) (rest : List Char) :
    split sep (cs ++ sep :: rest) = cs :: split sep rest := by
  rw [split_append_separator, split_of_not_mem h, List.singleton_append]

theorem pieces_append_separator (s t : String) :
    pieces sep (s ++ String.singleton sep ++ t) = pieces sep s ++ pieces sep t := by
  have htext : (s ++ String.singleton sep ++ t).toList = s.toList ++ sep :: t.toList := by simp
  rw [pieces, htext, split_append_separator, List.map_append, pieces, pieces]

/-- Pieces that do not hold the separator are those of the text that they are joined to. -/
theorem pieces_joinWith {ps : List String} (hne : ps ≠ []) (h : ∀ p ∈ ps, sep ∉ p.toList) :
    pieces sep (joinWith (String.singleton sep) ps) = ps := by
  induction ps with
  | nil => exact absurd rfl hne
  | cons p ps ih =>
    have hp : sep ∉ p.toList := h p List.mem_cons_self
    cases ps with
    | nil => rw [joinWith, pieces, split_of_not_mem hp, List.map_singleton, String.ofList_toList]
    | cons q ps =>
      have hrest := ih (by simp) fun r hr => h r (List.mem_cons_of_mem p hr)
      rw [pieces] at hrest
      have htext : (joinWith (String.singleton sep) (p :: q :: ps)).toList =
          p.toList ++ sep :: (joinWith (String.singleton sep) (q :: ps)).toList := by
        simp [joinWith]
      rw [pieces, htext, split_append_cons hp, List.map_cons, String.ofList_toList, hrest]

theorem joinWith_concat (sep : String) {ps : List String} (hne : ps ≠ []) (p : String) :
    joinWith sep (ps ++ [p]) = joinWith sep ps ++ sep ++ p := by
  induction ps with
  | nil => exact absurd rfl hne
  | cons q ps ih =>
    cases ps with
    | nil => rfl
    | cons r ps =>
      have hrest := ih (by simp)
      rw [List.cons_append, List.cons_append, joinWith, ← List.cons_append, hrest, joinWith]
      simp only [String.append_assoc]

end RuleMatching.Text
