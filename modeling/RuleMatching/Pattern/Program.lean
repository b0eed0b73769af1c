import RuleMatching.Pattern.Node

/-!
Programs that search for a pattern.  The steps of a pattern stand together, and a pattern has
matched when the last of them has been passed, so a sequence of patterns is the steps of one behind
those of the other.  `length_code` says how many steps there are, and so where the steps behind
begin.
-/

set_option autoImplicit false
set_option relaxedAutoImplicit false

namespace RuleMatching.Pattern

/-- A step of a program.  Reading a character and looking at a place pass on to the step behind,
a jump to a step by its number, and a fork to one of two steps of which the first is preferred. -/
inductive Step where
  | read (s : CharSet)
  | look (l : Look)
  | jump (next : Nat)
  | fork (first second : Nat)
  deriving DecidableEq, Repr

/-- A fork that goes on with another pass or leaves; passing again is preferred if `greedy`. -/
def Step.turn (greedy : Bool) (again leave : Nat) : Step :=
  if greedy then fork again leave else fork leave again

namespace Node

def size : Node → Nat
  | empty => 0
  | one _ => 1
  | look _ => 1
  | concat a b => a.size + b.size
  | either a b => a.size + b.size + 2
  | repetition least none _ a => if least = 0 then a.size + 2 else least * a.size + 1
  | repetition least (some most) _ a => least * a.size + (most - least) * (a.size + 1)
  | group _ a => a.size

/-- The steps of a pattern, of which the first has the number `start`. -/
def code : Node → Nat → List Step
  | empty, _ => []
  | one s, _ => [.read s]
  | look l, _ => [.look l]
  | concat a b, start => a.code start ++ b.code (start + a.size)
  | either a b, start =>
      let second := start + a.size + 2
      .fork (start + 1) second :: a.code (start + 1) ++
        .jump (second + b.size) :: b.code second
  | repetition 0 none greedy a, start =>
      let turn := .turn greedy (start + 1) (start + a.size + 2)
      turn :: a.code (start + 1) ++ [turn]
  | repetition (least + 1) none greedy a, start =>
      let n := a.size
      let last := start + least * n
      (List.range (least + 1)).flatMap (fun i => a.code (start + i * n)) ++
        [.turn greedy last (last + n + 1)]
  | repetition least (some most) greedy a, start =>
      let n := a.size
      let free := start + least * n
      let stop := free + (most - least) * (n + 1)
      (List.range least).flatMap (fun i => a.code (start + i * n)) ++
        (List.range (most - least)).flatMap fun i =>
          let here := free + i * (n + 1)
          .turn greedy (here + 1) stop :: a.code (here + 1)
  | group _ a, start => a.code start

theorem length_copies {f : Nat → List Step} {n : Nat}
    (length_eq : ∀ i, (f i).length = n) (k : Nat) :
    ((List.range k).flatMap f).length = k * n := by
  induction k with
  | zero => simp
  | succ k ih => simp [List.range_succ, List.flatMap_append, ih, length_eq, Nat.succ_mul]

theorem length_code (n : Node) (start : Nat) : (n.code start).length = n.size := by
  induction n generalizing start with
  | empty => rfl
  | one s => rfl
  | look l => rfl
  | concat a b iha ihb => simp [code, size, iha, ihb]
  | either a b iha ihb => simp [code, size, iha, ihb]; omega
  | repetition least most greedy a ih =>
      match least, most with
      | 0, none => simp [code, size, ih]
      | least + 1, none => simp [code, size, length_copies fun i => ih _]
      | least, some most =>
          simp [code, size, length_copies fun i => ih _, length_copies (n := a.size + 1), ih]
  | group _ a ih => simp [code, size, ih]

end Node

/-- A program: the steps by their numbers. -/
abbrev Program := Array Step

def Program.ofNode (n : Node) : Program := (n.code 0).toArray

theorem Program.size_ofNode (n : Node) : (Program.ofNode n).size = n.size := by
  simp [Program.ofNode, Node.length_code]

end RuleMatching.Pattern
