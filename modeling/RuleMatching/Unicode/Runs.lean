/-!
Sets of code points written as runs: a list of points in ascending order, at which membership
turns on and off in turn.  `within` reads such a list; `combine` puts two of them together point by
point, and `within_combine` says that what belongs to the result is decided by what belongs to each.
-/

set_option autoImplicit false
set_option relaxedAutoImplicit false

namespace RuleMatching.Unicode

/-- The points at which membership of a set of code points turns on and off in turn. -/
abbrev Runs := List Nat

/-- Whether a code point belongs to the set with the given turning points. -/
def within : Runs → Nat → Bool
  | [], _ => false
  | p :: ps, n => if n < p then false else !within ps n

@[simp] theorem within_nil (n : Nat) : within [] n = false := rfl

theorem within_cons (p : Nat) (ps : Runs) (n : Nat) :
    within (p :: ps) n = if n < p then false else !within ps n := rfl

theorem within_eq_false {ps : Runs} {n : Nat} (before : ∀ p ∈ ps, n < p) : within ps n = false := by
  cases ps with
  | nil => rfl
  | cons p ps => simp [within_cons, before p]

namespace Runs

/-- Puts a turning point in front of others, if membership changes there. -/
def turnAt (before after : Bool) (p : Nat) (rest : Runs) : Runs :=
  if before = after then rest else p :: rest

/-- The turning points that are left when the first set changes no more: `a` and `b` say what
belongs to the sets so far. -/
def combineRest (op : Bool → Bool → Bool) (a : Bool) : Bool → Runs → Runs
  | _, [] => []
  | b, q :: qs => turnAt (op a b) (op a (!b)) q (combineRest op a (!b) qs)

/-- The turning points up to the point `p`, where the first set changes, and then those of the
`rest`. -/
def combineUpTo (op : Bool → Bool → Bool) (p : Nat) (a : Bool) (rest : Bool → Runs → Runs) :
    Bool → Runs → Runs
  | b, [] => turnAt (op a b) (op (!a) b) p (rest b [])
  | b, q :: qs =>
      if q < p then turnAt (op a b) (op a (!b)) q (combineUpTo op p a rest (!b) qs)
      else if q = p then turnAt (op a b) (op (!a) (!b)) p (rest (!b) qs)
      else turnAt (op a b) (op (!a) b) p (rest b (q :: qs))

/-- The turning points of a combination of two sets that `a` and `b` say the start of. -/
def combineFrom (op : Bool → Bool → Bool) : Bool → Runs → Bool → Runs → Runs
  | a, [], b, qs => combineRest op a b qs
  | a, p :: ps, b, qs => combineUpTo op p a (combineFrom op (!a) ps) b qs

/-- The combination of two sets under an operation that makes nothing of nothing. -/
def combine (op : Bool → Bool → Bool) (ps qs : Runs) : Runs := combineFrom op false ps false qs

private theorem within_turnAt {x y : Bool} {p n : Nat} {rest : Runs}
    (before : n < p → (y != within rest n) = y) :
    (x != within (turnAt x y p rest) n) = if n < p then x else y != within rest n := by
  unfold turnAt
  by_cases hn : n < p
  · have off : within rest n = false := by
      have := before hn
      cases y <;> simpa using this
    split <;> simp [within_cons, hn, off]
  · cases x <;> cases y <;> simp [within_cons, hn]

private theorem within_combineRest (op : Bool → Bool → Bool) (a b : Bool) (n : Nat) {qs : Runs}
    (ascending : qs.Pairwise (· < ·)) :
    (op a b != within (combineRest op a b qs) n) = op a (b != within qs n) := by
  induction qs generalizing b with
  | nil => simp [combineRest]
  | cons q qs ih =>
      obtain ⟨first, ascending⟩ := List.pairwise_cons.mp ascending
      have rest := ih (!b) ascending
      have off : n < q → within qs n = false := fun hn =>
        within_eq_false fun p hp => Nat.lt_trans hn (first p hp)
      rw [combineRest, within_turnAt, rest, within_cons]
      · by_cases hn : n < q <;> simp [hn]
      · intro hn
        simpa [off hn] using rest

private theorem within_combineUpTo (op : Bool → Bool → Bool) {p : Nat} (a b : Bool) (n : Nat)
    {rest : Bool → Runs → Runs} {ps qs : Runs} (off : n < p → within ps n = false)
    (within_rest : ∀ b {qs : Runs}, qs.Pairwise (· < ·) →
      (op (!a) b != within (rest b qs) n) = op ((!a) != within ps n) (b != within qs n))
    (ascending : qs.Pairwise (· < ·)) :
    (op a b != within (combineUpTo op p a rest b qs) n) =
      op (a != within (p :: ps) n) (b != within qs n) := by
  induction qs generalizing b with
  | nil =>
      have last := within_rest b ascending
      rw [combineUpTo, within_turnAt, last, within_cons]
      · by_cases hn : n < p <;> simp [hn]
      · intro hn
        simpa [off hn] using last
  | cons q qs ih =>
      obtain ⟨first, later⟩ := List.pairwise_cons.mp ascending
      have offq : n < q → within qs n = false := fun hn =>
        within_eq_false fun p hp => Nat.lt_trans hn (first p hp)
      rw [combineUpTo]
      split
      · rename_i hq
        have next := ih (!b) later
        rw [within_turnAt, next, within_cons q]
        · by_cases hn : n < q
          · simp [hn, within_cons, Nat.lt_trans hn hq]
          · simp [hn]
        · intro hn
          simpa [offq hn, within_cons, Nat.lt_trans hn hq] using next
      · split
        · rename_i hq
          subst hq
          have next := within_rest (!b) later
          rw [within_turnAt, next, within_cons q, within_cons q]
          · by_cases hn : n < q <;> simp [hn]
          · intro hn
            simpa [off hn, offq hn] using next
        · rename_i hq hne
          have next := within_rest b ascending
          have offAll : n < p → within (q :: qs) n = false := fun hn => by
            rw [within_cons, if_pos (by omega)]
          rw [within_turnAt, next, within_cons p]
          · by_cases hn : n < p
            · simp [hn, offAll hn]
            · simp [hn]
          · intro hn
            simpa [off hn, offAll hn] using next

private theorem within_combineFrom (op : Bool → Bool → Bool) (a b : Bool) (n : Nat) {ps qs : Runs}
    (ascendingLeft : ps.Pairwise (· < ·)) (ascendingRight : qs.Pairwise (· < ·)) :
    (op a b != within (combineFrom op a ps b qs) n) =
      op (a != within ps n) (b != within qs n) := by
  induction ps generalizing a b qs with
  | nil => simpa [combineFrom] using within_combineRest op a b n ascendingRight
  | cons p ps ih =>
      obtain ⟨first, later⟩ := List.pairwise_cons.mp ascendingLeft
      have off : n < p → within ps n = false := fun hn =>
        within_eq_false fun p hp => Nat.lt_trans hn (first p hp)
      exact within_combineUpTo op a b n off (fun b _ h => ih (!a) b later h) ascendingRight

theorem within_combine {op : Bool → Bool → Bool} (op_false : op false false = false) (n : Nat)
    {ps qs : Runs} (ascendingLeft : ps.Pairwise (· < ·)) (ascendingRight : qs.Pairwise (· < ·)) :
    within (combine op ps qs) n = op (within ps n) (within qs n) := by
  simpa [combine, op_false] using
    within_combineFrom op false false n ascendingLeft ascendingRight

def complement : Runs → Runs
  | 0 :: ps => ps
  | ps => 0 :: ps

theorem within_complement (ps : Runs) (n : Nat) : within (complement ps) n = !within ps n := by
  unfold complement
  split <;> simp [within_cons]

/-- The ranges of a set, first and last member, below a bound. -/
def ranges (bound : Nat) : Runs → List (Nat × Nat)
  | [] => []
  | [p] => if p < bound then [(p, bound - 1)] else []
  | p :: q :: ps => (p, q - 1) :: ranges bound ps

/-- The code points of a set that has an end. -/
def members : Runs → List Nat
  | [] => []
  | [_] => []
  | p :: q :: ps => (List.range (q - p)).map (p + ·) ++ members ps

/-- The set of the members of an ascending list. -/
def ofAscending : List Nat → Runs
  | [] => []
  | n :: ns =>
      match ofAscending ns with
      | [] => [n, n + 1]
      | p :: ps => if p = n + 1 then n :: ps else if p = n then p :: ps else n :: (n + 1) :: p :: ps

end Runs

end RuleMatching.Unicode
