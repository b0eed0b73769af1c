import RuleMatching.Pattern.Node
import RuleMatching.Unicode.Encoding

/-!
Patterns in the form that machines are built for.  Adjacent characters are joined to literals,
alternatives that are single characters or sets are joined to one set, what all alternatives begin
with is put in front of them, and repetitions that do nothing are dropped.
-/

set_option autoImplicit false
set_option relaxedAutoImplicit false

namespace RuleMatching.Pattern

/-- A pattern in simple form, with sets of characters given as `α`.  Sequences and choices lean to
the right. -/
inductive Form (α : Type) where
  | empty
  | never
  | literal (cs : List Nat)
  | set (s : α)
  | look (l : Look)
  | repetition (least : Nat) (most : Option Nat) (greedy : Bool) (a : Form α)
  | group (a : Form α)
  | concat (a b : Form α)
  | either (a b : Form α)
  deriving Repr

namespace Form

variable {α β : Type}

def map (f : α → β) : Form α → Form β
  | empty => empty
  | never => never
  | literal cs => literal cs
  | set s => set (f s)
  | look l => look l
  | repetition least most greedy a => repetition least most greedy (a.map f)
  | group a => group (a.map f)
  | concat a b => concat (a.map f) (b.map f)
  | either a b => either (a.map f) (b.map f)

/-- Whether two forms are the same.  Groups are told apart by where they stand, so no two of them
are. -/
def same [BEq α] : Form α → Form α → Bool
  | empty, empty => true
  | never, never => true
  | literal cs, literal ds => cs == ds
  | set s, set t => s == t
  | look l, look m => l == m
  | repetition k m g a, repetition k' m' g' b => k == k' && m == m' && g == g' && a.same b
  | concat a b, concat c d => a.same c && b.same d
  | either a b, either c d => a.same c && b.same d
  | _, _ => false

def parts : Form α → List (Form α)
  | empty => []
  | concat a b => a :: b.parts
  | a => [a]

def alternatives : Form α → List (Form α)
  | either a b => a :: b.alternatives
  | a => [a]

def joinLiterals : List (Form α) → List (Form α)
  | [] => []
  | literal cs :: r =>
      match joinLiterals r with
      | literal ds :: r' => literal (cs ++ ds) :: r'
      | r' => literal cs :: r'
  | a :: r => a :: joinLiterals r

/-- The sequence of parts that need no more joining. -/
def ofParts : List (Form α) → Form α
  | [] => empty
  | [a] => a
  | a :: b :: r => concat a (ofParts (b :: r))

def sequence (fs : List (Form α)) : Form α := ofParts (joinLiterals (fs.flatMap parts))

/-- The choice between alternatives, of which there is at least one. -/
def ofAlternatives : List (Form α) → Form α
  | [] => never
  | [a] => a
  | a :: b :: r => either a (ofAlternatives (b :: r))

/-- Whether a form can only match the empty text. -/
def isZeroWidth : Form α → Bool
  | empty => true
  | look _ => true
  | repetition _ most _ a => most.isSome && a.isZeroWidth
  | group a => a.isZeroWidth
  | concat a b => a.isZeroWidth && b.isZeroWidth
  | either a b => a.isZeroWidth && b.isZeroWidth
  | _ => false

/-- Whether a form matches at least one character whenever it matches; unknown if part of it never
matches. -/
def consumes : Form α → Option Bool
  | empty => some false
  | never => none
  | literal _ => some true
  | set _ => some true
  | look _ => some false
  | repetition least _ _ a => a.consumes.map fun c => c && least != 0
  | group a => a.consumes
  | concat a b =>
      match a.consumes, b.consumes with
      | some c, some d => some (c || d)
      | _, _ => none
  | either a b =>
      match a.consumes, b.consumes with
      | some c, some d => some (c && d)
      | _, _ => none

/-- Repeats a form.  Repeating what matches only the empty text more than once does nothing. -/
def repeated (least : Nat) (most : Option Nat) (greedy : Bool) (a : Form α) : Form α :=
  let least := if a.isZeroWidth then min least 1 else least
  let most := if a.isZeroWidth then some ((most.map (min · 1)).getD 1) else most
  if least = 0 ∧ most = some 0 then empty
  else if least = 1 ∧ most = some 1 then a
  else repetition least most greedy a

/-- Whether the start of the text is all that the form matches at. -/
def startsText : Form α → Bool
  | look l => l == .textStart
  | repetition least _ _ a => least != 0 && a.startsText
  | group a => a.startsText
  | concat a b => a.startsText || (a.isZeroWidth && b.startsText)
  | either a b => a.startsText && b.startsText
  | _ => false

/-- Whether the end of the text is all that matches of the form end at. -/
def endsText : Form α → Bool
  | look l => l == .textEnd
  | repetition least _ _ a => least != 0 && a.endsText
  | group a => a.endsText
  | concat a b => b.endsText || (b.isZeroWidth && a.endsText)
  | either a b => a.endsText && b.endsText
  | _ => false

/-- The literals that a choice is between, if it is between nothing else. -/
def literals? : Form α → Option (List (List Nat))
  | literal cs => some [cs]
  | either (literal cs) b => b.literals?.map (cs :: ·)
  | _ => none

/-- The number of parts that two sequences begin with alike. -/
def commonParts [BEq α] : List (Form α) → List (Form α) → Nat
  | a :: as, b :: bs => if a.same b then commonParts as bs + 1 else 0
  | _, _ => 0

/-- The number of parts that all sequences begin with alike.  A form that is no sequence has no
parts to share. -/
def sharedParts [BEq α] (first : Form α) (rest : List (Form α)) : Nat :=
  match first with
  | concat a b =>
      rest.foldl (fun n f =>
        match f with
        | concat c d => min n (commonParts (a :: b.parts) (c :: d.parts))
        | _ => 0) (b.parts.length + 1)
  | _ => 0

/-- A set of characters: a literal if it is a single one. -/
def ofRuns (rs : Unicode.Runs) : Form Unicode.Runs :=
  match Unicode.firstMembers 2 rs with
  | [] => never
  | [n] => literal [n]
  | _ => set rs

/-- The set of characters that a form is, if it is one. -/
def runs? : Form Unicode.Runs → Option Unicode.Runs
  | never => some []
  | literal [n] => some [n, n + 1]
  | set rs => some rs
  | _ => none

/-- The form of a choice between alternatives that need not be tried one by one: there is at most
one, or each is a set of characters. -/
def merged? : List (Form Unicode.Runs) → Option (Form Unicode.Runs)
  | [] => some never
  | [a] => some a
  | as => (as.mapM runs?).map fun rss => ofRuns (rss.foldr (Unicode.Runs.combine (· || ·)) [])

/-- The choice between forms; `fuel` bounds how often common parts can be put in front. -/
def choice : Nat → List (Form Unicode.Runs) → Form Unicode.Runs
  | 0, fs => ofAlternatives (fs.flatMap alternatives)
  | fuel + 1, fs =>
      let as := fs.flatMap alternatives
      match merged? as with
      | some f => f
      | none =>
          match as with
          | [] => never
          | a :: rest =>
              match sharedParts a rest with
              | 0 => ofAlternatives as
              | n + 1 =>
                  let rests := as.map fun f => ofParts (f.parts.drop (n + 1))
                  sequence (a.parts.take (n + 1) ++ [choice fuel rests])

/-- A bound on the number of parts of sequences inside a pattern. -/
def partBound : Node → Nat
  | .concat a b => partBound a + partBound b + 1
  | .either a b => partBound a + partBound b
  | .group _ a => partBound a
  | .repetition _ _ _ a => partBound a
  | _ => 1

/-- The alternatives of a pattern, each in simple form. -/
def branches (fuel : Nat) : Node → List (Form Unicode.Runs)
  | .empty => [empty]
  | .one s => [ofRuns s.runs]
  | .look l => [look l]
  | .concat a b => [sequence [choice fuel (branches fuel a), choice fuel (branches fuel b)]]
  | .either a b => choice fuel (branches fuel a) :: branches fuel b
  | .repetition least most greedy a =>
      [repeated least most greedy (choice fuel (branches fuel a))]
  | .group captures a =>
      let f := choice fuel (branches fuel a)
      [if captures then group f else f]

def ofNode (n : Node) : Form Unicode.Runs :=
  let fuel := partBound n + 1
  choice fuel (branches fuel n)

end Form

end RuleMatching.Pattern
