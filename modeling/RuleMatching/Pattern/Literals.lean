import RuleMatching.Pattern.Form

/-!
The texts that the matches of a pattern begin with.  Where there are few of them and each is a whole match,
they are looked for as they are, and no machine is built.  Bounds on their number and their length keep
the search for them short; what goes beyond a bound is no whole match any more, or is not known.
-/

set_option autoImplicit false
set_option relaxedAutoImplicit false

namespace RuleMatching.Pattern

/-- A text, in bytes, that matches may begin with.  An exact one is a whole match. -/
structure Start where
  bytes : List Nat
  exact : Bool
  deriving DecidableEq, Repr

namespace Start

/-- The first bytes of a text. -/
def keep (length : Nat) (s : Start) : Start :=
  if s.bytes.length ≤ length then s else ⟨s.bytes.take length, false⟩

def thenStart (s t : Start) : Start := if s.exact then ⟨s.bytes ++ t.bytes, t.exact⟩ else s

/-- Puts a text in front of others; next to the same text it makes one with it. -/
def addTo (s : Start) : List Start → List Start
  | [] => [s]
  | t :: ts => if s.bytes = t.bytes then ⟨s.bytes, s.exact && t.exact⟩ :: ts else s :: t :: ts

end Start

/-- The texts that matches begin with, those that are preferred in front; `none` if they are not
known. -/
abbrev Starts := Option (List Start)

namespace Starts

/-- The greatest number of texts. -/
def countBound : Nat := 250

/-- The greatest length of a text. -/
def lengthBound : Nat := 100

/-- The greatest number of characters in a set whose members are told apart. -/
def setBound : Nat := 10

/-- The greatest number of repetitions that are followed. -/
def timesBound : Nat := 10

/-- How much of each text is kept if there are too many. -/
def shortLength : Nat := 4

def one (bytes : List Nat) : Starts := some [⟨bytes, true⟩]

/-- No text is a whole match, so it does not matter what follows. -/
def isInexact : Starts → Bool
  | none => true
  | some ss => ss.all (!·.exact)

def inexact (ss : Starts) : Starts := ss.map fun ss => ss.map fun s => { s with exact := false }

def keep (length : Nat) (ss : Starts) : Starts := ss.map fun ss => ss.map (·.keep length)

/-- Makes one of equal texts that stand next to each other. -/
def joinEqual (ss : List Start) : List Start := ss.foldr Start.addTo []

def fitTogether : Starts → Starts → Bool
  | some ss, some ts => ss.length + ts.length ≤ countBound
  | _, _ => true

/-- The texts of two alternatives, those of the first in front. -/
def either (a b : Starts) : Starts :=
  let shorten (x : Starts) : Starts :=
    if fitTogether a b then x else (keep shortLength x).map joinEqual
  match shorten a, shorten b with
  | some ss, some ts => if fitTogether (some ss) (some ts) then some (joinEqual (ss ++ ts)) else none
  | _, _ => none

/-- The texts of two parts that follow each other. -/
def follow (a b : Starts) : Starts :=
  if a.isInexact then a
  else
    match a, b with
    | some ss, some ts =>
        if ss.length * ts.length ≤ countBound then
          keep lengthBound
            (some (joinEqual (ss.flatMap fun s => if s.exact then ts.map s.thenStart else [s])))
        else if ss.any (·.bytes.isEmpty) then none
        else inexact (some ss)
    | some ss, none => if ss.any (·.bytes.isEmpty) then none else inexact (some ss)
    | none, _ => none

/-- The texts of a part that is repeated so many times, as far as that is followed. -/
def times (a : Starts) (count : Nat) : Starts :=
  let repeated := (List.replicate (min count timesBound) a).foldl follow (one [])
  if count ≤ timesBound then repeated else inexact repeated

end Starts

/-- How the texts of a form are put together with those in front of it. -/
inductive Joining where
  | following
  | alternative
  deriving DecidableEq, Repr

def Joining.join : Joining → Starts → Starts → Starts
  | following, a, b => a.follow b
  | alternative, a, b => a.either b

namespace Form

/-- The texts that matches of a form begin with, put together with those in front of it.  The parts of a
sequence, and alternatives, are put together one after the other. -/
def addStarts : Form Unicode.Runs → Joining → Starts → Starts
  | empty, j, ss => j.join ss (.one [])
  | never, j, ss => j.join ss (some [])
  | literal cs, j, ss => j.join ss (Starts.keep Starts.lengthBound (.one (cs.flatMap Unicode.encode)))
  | set rs, j, ss =>
      let members := Unicode.firstMembers (Starts.setBound + 1) rs
      j.join ss
        (if members.length ≤ Starts.setBound then
          some (members.map fun n => ⟨Unicode.encode n, true⟩)
        else none)
  | look _, j, ss => j.join ss (.one [])
  | repetition least most greedy a, j, ss =>
      let once := a.addStarts .following (.one [])
      j.join ss
        (if least = 0 then
          let once := if most = some 1 then once else once.inexact
          if greedy then once.either (.one []) else .either (.one []) once
        else if most = some least then once.times least
        else if most = none then once.inexact
        else (once.times least).inexact)
  | group a, j, ss => j.join ss (a.addStarts .following (.one []))
  | concat a b, .following, ss => b.addStarts .following (a.addStarts .following ss)
  | concat a b, .alternative, ss =>
      ss.either (b.addStarts .following (a.addStarts .following (.one [])))
  | either a b, .alternative, ss => b.addStarts .alternative (a.addStarts .alternative ss)
  | either a b, .following, ss =>
      ss.follow (b.addStarts .alternative (a.addStarts .alternative (some [])))

/-- The texts that matches of a form begin with. -/
def starts (f : Form Unicode.Runs) : Starts := f.addStarts .following (.one [])

/-- Whether a form has no groups that keep where they match, and does not look around. -/
def isBare {α : Type} : Form α → Bool
  | look _ => false
  | group _ => false
  | repetition _ _ _ a => a.isBare
  | concat a b => a.isBare && b.isBare
  | either a b => a.isBare && b.isBare
  | _ => true

end Form

namespace Starts

/-- Drops texts that begin with one in front of them, which is preferred. -/
def withoutLonger (ss : List Start) : List Start :=
  ss.foldl (fun kept s => if kept.any (·.bytes.isPrefixOf s.bytes) then kept else kept ++ [s]) []

def commonLength : List Nat → List Nat → Nat
  | a :: as, b :: bs => if a = b then commonLength as bs + 1 else 0
  | _, _ => 0

/-- What all texts begin with. -/
def commonStart : List Start → List Nat
  | [] => []
  | s :: ss => s.bytes.take (ss.foldl (fun n t => min n (commonLength s.bytes t.bytes)) s.bytes.length)

/-- Signs that occur often in texts. -/
def often : List Char := "\n\r (),-./0129:_abcdefghilmnoprstuvxy|".toList

/-- Signs that occur most often in texts. -/
def mostOften : List Char := [' ', 'e', 't']

/-- Whether a byte that a character starts with occurs often.  All that start a character outside ASCII
do. -/
def isOften (signs : List Char) (b : Nat) : Bool := 0x80 ≤ b || signs.any (·.toNat == b)

/-- Whether looking for a text finds something nearly everywhere. -/
def isUseless (s : Start) : Bool :=
  match s.bytes with
  | [] => true
  | [b] => isOften mostOften b
  | _ => false

/-- The lengths that texts are cut to, one after the other, while there are more texts than stand beside the
length. -/
def cuts : List (Nat × Nat) := [(5, 10), (4, 10), (3, 64), (2, 64), (1, 10)]

/-- Cuts texts while there are too many of them. -/
def cutDown : List (Nat × Nat) → List Start → List Start
  | [], ss => ss
  | (length, count) :: rest, ss =>
      if ss.length ≤ count then ss
      else cutDown rest (withoutLonger (ss.map (·.keep length)))

/-- The texts that are looked for at last.  Whole matches are given up for shorter texts only if these are
few and not too short. -/
def settle (ss : List Start) : List Start :=
  let shorter := cutDown cuts ss
  if ss.all (·.exact) ∧
      (shorter.any isUseless ∨ shorter.any (·.bytes.length ≤ 2) ∨ 64 < shorter.length) then ss
  else shorter

/-- The texts to look for in place of the given ones, of which none is empty. -/
def optimize (ss : List Start) : List Start :=
  let kept := withoutLonger ss
  let common := commonStart kept
  let isFast := kept.all (·.exact) && kept.length ≤ 16
  match common with
  | b :: _ =>
      if 1 < ss.length ∧ common.length ≤ 3 ∧ !isOften often b then joinEqual (kept.map (·.keep 1))
      else if 4 < common.length ∨ (1 < common.length ∧ !isFast) then
        settle (joinEqual (kept.map (·.keep common.length)))
      else settle kept
  | [] => settle kept

/-- Whether all matches are texts that can be looked for as they are. -/
def areSought : Starts → Bool
  | none => false
  | some ss => !ss.isEmpty && ss.all (!·.bytes.isEmpty) && (optimize ss).all (·.exact)

end Starts

/-- The number of literals from which on a choice between them needs no machine. -/
def manyLiterals : Nat := 3000

/-- Whether the matches of a form are looked for without a machine. -/
def Form.needsNoMachine (f : Form Unicode.Runs) : Bool :=
  f.isBare && (f.starts.areSought ||
    f.literals?.any fun ls => manyLiterals ≤ ls.length)

end RuleMatching.Pattern
