import RuleMatching.Unicode.Runs

/-!
Sets of code points that are built from others.  `holds` decides membership part by part; `toRuns`
writes the whole set as runs.
-/

set_option autoImplicit false
set_option relaxedAutoImplicit false

namespace RuleMatching.Unicode

/-- A set of code points. -/
inductive CodeSet where
  | runs (r : Runs)
  | union (a b : CodeSet)
  | intersection (a b : CodeSet)
  | difference (a b : CodeSet)
  | complement (a : CodeSet)

namespace CodeSet

def empty : CodeSet := runs []

def holds : CodeSet → Nat → Bool
  | runs r, n => within r n
  | union a b, n => a.holds n || b.holds n
  | intersection a b, n => a.holds n && b.holds n
  | difference a b, n => a.holds n && !b.holds n
  | complement a, n => !a.holds n

def toRuns : CodeSet → Runs
  | runs r => r
  | union a b => Runs.combine (· || ·) a.toRuns b.toRuns
  | intersection a b => Runs.combine (· && ·) a.toRuns b.toRuns
  | difference a b => Runs.combine (fun x y => x && !y) a.toRuns b.toRuns
  | complement a => a.toRuns.complement

def unions : List CodeSet → CodeSet
  | [] => empty
  | [a] => a
  | a :: b :: r => union a (unions (b :: r))

/-- The set that a table gives under a name. -/
def named? (name : String) (table : List (List String × CodeSet)) : Option CodeSet :=
  (table.find? fun e => e.1.contains name).map (·.2)

end CodeSet

end RuleMatching.Unicode
