import RuleMatching.Proofs.Pattern.Occurrence
import RuleMatching.Proofs.Pattern.Reading
import RuleMatching.Text.Pieces

/-!
Patterns joined by bars.  A pattern may reach into those behind it: the flags that it sets stay in force,
and a comment in it may take a bar in.  Where it does neither, the joined text has the alternatives of the
patterns, in turn, so it occurs where one of them does: `occursIn_joinWith`.
-/

set_option autoImplicit false
set_option relaxedAutoImplicit false

namespace RuleMatching.Pattern

/-- A reader at the start of a text, with flags in force. -/
def Reader.startWith (f : Flags) : Reader := { Reader.start with flags := f }

/-- The alternatives in the group that is being read. -/
def Reader.alternatives (r : Reader) : List Node := r.next.level.branches.reverse.map (·.1)

/-- The alternatives of a text that is read with flags in force, and the flags in force behind it. -/
def alternatives? (f : Flags) (cs : List Char) : Option (List Node × Flags) := do
  let r ← Reader.atEnd? (cs.length + 1) (.startWith f) cs
  if r.stack.isEmpty then some (r.alternatives, r.flags) else none

/-- The alternatives of a pattern by itself. -/
def alternativesOf (p : String) : List Node :=
  match alternatives? .initial p.toList with
  | some (ns, _) => ns
  | none => []

/-- Whether patterns stay apart when bars join them: with the flags in force that those before it leave
behind, each has the alternatives that it has by itself, and a bar behind it begins one more. -/
def keepApart (f : Flags) : List String → Bool
  | [] => true
  | p :: ps =>
      match alternatives? f p.toList with
      | none => false
      | some (ns, g) => ns == alternativesOf p &&
          (ps.isEmpty || ((alternatives? f (p.toList ++ ['|'])).map (·.1) == some (ns ++ [.empty]) &&
            keepApart g ps))

variable {f g : Flags} {cs : List Char} {ns : List Node} {p : String} {r : Reader}

theorem alternatives?_eq_some_iff : alternatives? f cs = some (ns, g) ↔
    ∃ r, Reads (.startWith f) cs r ∧ r.stack = [] ∧ r.alternatives = ns ∧ r.flags = g := by
  simp only [alternatives?, Option.bind_eq_bind, Option.bind_eq_some_iff,
    atEnd?_eq_some_iff (Nat.lt_succ_self _), Option.ite_none_right_eq_some, List.isEmpty_iff,
    Option.some.injEq, Prod.mk.injEq]

theorem alternativesOf_eq (h : alternatives? .initial p.toList = some (ns, g)) :
    alternativesOf p = ns := by
  rw [alternativesOf, h]

/-- A pattern is the choice between its alternatives. -/
theorem exists_alternatives {n : Node} (h : readNode? cs = some n) :
    ∃ ns g, alternatives? .initial cs = some (ns, g) ∧ n = .choice ns := by
  unfold readNode? at h
  rw [readParts_eq] at h
  split at h
  · rename_i n' depth hread
    obtain ⟨-, h⟩ := Option.ite_none_right_eq_some.mp h
    obtain rfl := Option.some.inj h
    obtain ⟨r, hr, hfinish⟩ := Option.bind_eq_some_iff.mp hread
    have hreads := (atEnd?_eq_some_iff (Nat.lt_succ_self _)).mp hr
    unfold Reader.finish at hfinish
    split at hfinish
    · rename_i hstack
      refine ⟨_, _, alternatives?_eq_some_iff.mpr ⟨r, hreads, hstack, rfl, rfl⟩, ?_⟩
      exact (Prod.mk.inj (Option.some.inj hfinish)).1.symm
    · cases hfinish
  · cases h

theorem Reader.alternatives_ne_nil : r.alternatives ≠ [] := by
  simp [alternatives, next, Level.next]

theorem Reader.stack_of_on {before : List (Node × Nat)} {names : List (List Char)}
    (h : (r.on before names).stack = []) : r.stack = [] := by
  obtain ⟨flags, level, stack, seen⟩ := r
  cases stack with
  | nil => rfl
  | cons outer stack => simp [Reader.on, onBottom] at h

/-- The alternatives read before come first. -/
theorem Reader.alternatives_on {before : List (Node × Nat)} {names : List (List Char)}
    (hstack : r.stack = []) :
    (r.on before names).alternatives = before.reverse.map (·.1) ++ r.alternatives := by
  obtain ⟨flags, level, stack, seen⟩ := r
  obtain rfl : stack = [] := hstack
  simp [alternatives, next, Level.next, Reader.on, onBottom, Level.on, Level.branch]

/-- Behind a bar reading starts again, on top of the alternatives in front of it. -/
theorem Reader.next_eq_on (hstack : r.stack = []) :
    r.next = (Reader.startWith r.flags).on r.next.level.branches r.names := by
  obtain ⟨flags, level, stack, seen⟩ := r
  obtain rfl : stack = [] := hstack
  rfl

/-- Where a bar begins an alternative, the text behind it adds the alternatives that it has with the flags in
force there. -/
theorem alternatives?_behind_bar {f' : Flags} {ms : List Node} {t : List Char}
    (hfront : alternatives? f cs = some (ms, g))
    (hbar : (alternatives? f (cs ++ ['|'])).map (·.1) = some (ms ++ [.empty]))
    (h : alternatives? f (cs ++ '|' :: t) = some (ns, f')) :
    ∃ ks, alternatives? g t = some (ks, f') ∧ ns = ms ++ ks := by
  obtain ⟨r, hread, hstack, rfl, rfl⟩ := alternatives?_eq_some_iff.mp hfront
  obtain ⟨r', hread', hstack', rfl, rfl⟩ := alternatives?_eq_some_iff.mp h
  obtain hgo | htaken := hread.bar
  · have hbehind := (hgo t r').mp hread'
    rw [Reader.next_eq_on hstack] at hbehind
    obtain ⟨q, hq, rfl⟩ := hbehind.of_on
    have hqstack := Reader.stack_of_on hstack'
    exact ⟨q.alternatives, alternatives?_eq_some_iff.mpr ⟨q, hq, hqstack, rfl, rfl⟩,
      Reader.alternatives_on hqstack⟩
  · -- A comment that takes the bar in leaves the alternatives as they are.
    have hsame := alternatives?_eq_some_iff.mpr ⟨r, htaken, hstack, rfl, rfl⟩
    simp [hsame] at hbar

/-- The alternatives of patterns that stay apart when bars join them are those of the patterns, in turn. -/
theorem alternatives_joinWith {ps : List String} (hne : ps ≠ []) (hkeep : keepApart f ps = true)
    (h : alternatives? f (Text.joinWith "|" ps).toList = some (ns, g)) :
    ns = ps.flatMap alternativesOf := by
  induction ps generalizing f ns g with
  | nil => exact absurd rfl hne
  | cons p ps ih =>
    unfold keepApart at hkeep
    split at hkeep
    · cases hkeep
    · rename_i ms f' hfirst
      rw [Bool.and_eq_true, beq_iff_eq] at hkeep
      obtain ⟨halone, hkeep⟩ := hkeep
      cases ps with
      | nil =>
        obtain ⟨rfl, -⟩ := Prod.mk.inj (Option.some.inj (hfirst.symm.trans h))
        simpa using halone
      | cons q ps =>
        rw [List.isEmpty_cons, Bool.false_or, Bool.and_eq_true, beq_iff_eq] at hkeep
        obtain ⟨hbar, hkeep⟩ := hkeep
        have htext : (Text.joinWith "|" (p :: q :: ps)).toList =
            p.toList ++ '|' :: (Text.joinWith "|" (q :: ps)).toList := by
          simp [Text.joinWith]
        rw [htext] at h
        obtain ⟨ks, hks, rfl⟩ := alternatives?_behind_bar hfirst hbar h
        rw [List.flatMap_cons, halone, ih (by simp) hkeep hks]

theorem exists_readNode? {limit : Option Nat} {pattern : Pattern} (h : ofText? limit p = some pattern) :
    ∃ n, readNode? p.toList = some n := by
  unfold ofText? at h
  split at h
  · exact ⟨_, ‹_›⟩
  · cases h

/-- A pattern occurs in a text just if one of its alternatives matches somewhere in it. -/
theorem occursIn_iff_alternatives {limit : Option Nat} {pattern : Pattern}
    (h : ofText? limit p = some pattern) {text : String} : pattern.occursIn text = true ↔
      ∃ n ∈ alternativesOf p, ∃ x y, Place.Before ⟨none, text.toList⟩ x ∧ n.Matches x y := by
  obtain ⟨n, hn⟩ := exists_readNode? h
  obtain ⟨ns, g, hns, rfl⟩ := exists_alternatives hn
  have hne : ns ≠ [] := by
    obtain ⟨r, -, -, rfl, -⟩ := alternatives?_eq_some_iff.mp hns
    exact Reader.alternatives_ne_nil
  simp only [occursIn_iff h, hn, alternativesOf_eq hns, Option.some.injEq, exists_eq_left',
    Node.matches_choice hne]
  constructor
  · rintro ⟨x, y, hx, n, hn, hmatches⟩
    exact ⟨n, hn, x, y, hx, hmatches⟩
  · rintro ⟨n, hn, x, y, hx, hmatches⟩
    exact ⟨x, y, hx, n, hn, hmatches⟩

/-- Patterns that stay apart occur in a text, joined by bars, just if one of them does. -/
theorem occursIn_joinWith {limit : Option Nat} {ps : List String} (hne : ps ≠ [])
    (hkeep : keepApart .initial ps = true) (hvalid : ∀ p ∈ ps, isValid limit p = true)
    {joined : Pattern} (hjoined : ofText? limit (Text.joinWith "|" ps) = some joined) {text : String} :
    joined.occursIn text = true ↔
      ∃ p ∈ ps, ∃ pattern, ofText? limit p = some pattern ∧ pattern.occursIn text = true := by
  obtain ⟨n, hn⟩ := exists_readNode? hjoined
  obtain ⟨ns, g, hns, -⟩ := exists_alternatives hn
  rw [occursIn_iff_alternatives hjoined, alternativesOf_eq hns, alternatives_joinWith hne hkeep hns]
  simp only [List.mem_flatMap]
  constructor
  · rintro ⟨n, ⟨p, hp, hn⟩, hmatches⟩
    obtain ⟨pattern, hpattern⟩ := Option.isSome_iff_exists.mp (hvalid p hp)
    exact ⟨p, hp, pattern, hpattern, (occursIn_iff_alternatives hpattern).mpr ⟨n, hn, hmatches⟩⟩
  · rintro ⟨p, hp, pattern, hpattern, hoccurs⟩
    obtain ⟨n, hn, hmatches⟩ := (occursIn_iff_alternatives hpattern).mp hoccurs
    exact ⟨n, ⟨p, hp, hn⟩, hmatches⟩

end RuleMatching.Pattern
