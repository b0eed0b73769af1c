import RuleMatching.Pattern.Literals
import Std.Data.TreeMap.Basic

/-!
The size of the machines that search for a pattern.  One machine reads forwards and keeps where
groups match, the other reads backwards; both are built state by state, and a pattern is too large
if a machine for it would take more bytes than a limit.

Only the size of a machine is built here.  States have numbers in the order in which they are made.
The states for a set of characters are shared where they do the same; what can be shared is looked
up in a table with a fixed number of places, in which a later state takes the place of an earlier
one.
-/

set_option autoImplicit false
set_option relaxedAutoImplicit false

namespace RuleMatching.Pattern

/-- The size of a machine: the number of its states, and of bytes that the lists in them take. -/
structure Extent where
  states : Nat
  listed : Nat
  deriving DecidableEq, Repr

namespace Extent

/-- The bytes that a state takes besides its lists. -/
def stateBytes : Nat := 32

/-- The bytes that a transition in a list takes. -/
def transitionBytes : Nat := 8

/-- The bytes that the number of a state in a list takes. -/
def numberBytes : Nat := 4

def bytes (e : Extent) : Nat := stateBytes * e.states + e.listed

/-- Adds states with lists of so many bytes, as far as the limit allows. -/
def grow (limit states listed : Nat) (e : Extent) : Option Extent :=
  let e' := ⟨e.states + states, e.listed + listed⟩
  if bytes e' ≤ limit then some e' else none

def times (step : Extent → Option Extent) : Nat → Extent → Option Extent
  | 0, e => some e
  | n + 1, e =>
      match step e with
      | none => none
      | some e => times step n e

end Extent

/-- The direction in which a machine reads. -/
inductive Direction where
  | forwards
  | backwards
  deriving DecidableEq, Repr

/-- What states do, with their numbers, by places in a table. -/
abbrev Places := Std.TreeMap Nat (List Nat × Nat)

/-- The place of a key in a table with so many places. -/
def placeOf (count : UInt64) (key : List Nat) : Nat :=
  let spread (h : UInt64) (n : Nat) : UInt64 := (h ^^^ n.toUInt64) * 1099511628211
  (key.foldl spread 14695981039346656037 % count).toNat

/-- The state with a key, if the table has it at its place. -/
def stateAt? (places : Places) (place : Nat) (key : List Nat) : Option Nat :=
  match places[place]? with
  | some (k, state) => if k = key then some state else none
  | none => none

/-- A machine that is being built for a set of characters. -/
structure SetDraft where
  extent : Extent
  places : Places

namespace SetDraft

/-- The state with a key: the one in the table, or a new one with a list of so many bytes. -/
def share (limit : Nat) (count : UInt64) (key : List Nat) (listed : Nat) (d : SetDraft) :
    Option (Nat × SetDraft) :=
  let place := placeOf count key
  match stateAt? d.places place key with
  | some state => some (state, d)
  | none => do
      let e ← d.extent.grow limit 1 listed
      some (d.extent.states, ⟨e, d.places.insert place (key, d.extent.states)⟩)

/-- The number of places in the table for reading forwards. -/
def forwardPlaces : UInt64 := 10000

/-- The number of places in the table for reading backwards. -/
def backwardPlaces : UInt64 := 1000

def byFirst : List (List Unicode.ByteRange) →
    List (Unicode.ByteRange × List (List Unicode.ByteRange))
  | [] => []
  | [] :: rest => byFirst rest
  | (r :: tail) :: rest =>
      match byFirst rest with
      | (r', tails) :: groups =>
          if r = r' then (r, tail :: tails) :: groups else (r, [tail]) :: (r', tails) :: groups
      | [] => [(r, [tail])]

/-- The states that read sequences forwards and go on to the state `target`, the last of them first;
the result is the number of the state to start from.  `depth` is the length of the longest
sequence. -/
def forwards (limit target : Nat) :
    Nat → List (List Unicode.ByteRange) → SetDraft → Option (Nat × SetDraft)
  | 0, _, d => some (target, d)
  | depth + 1, seqs, d =>
      if seqs.all (·.isEmpty) then some (target, d)
      else do
        let groups := byFirst seqs
        let (key, d) ← groups.foldlM (fun (key, d) g => do
          let (next, d) ← forwards limit target depth g.2 d
          some (key ++ [g.1.1, g.1.2, next], d)) ([], d)
        d.share limit forwardPlaces key (Extent.transitionBytes * groups.length)

/-- The states that read a sequence backwards and go on to the state `next`. -/
def backwards (limit next : Nat) : List Unicode.ByteRange → SetDraft → Option SetDraft
  | [], d => some d
  | r :: rs, d => do
      let (state, d) ← d.share limit backwardPlaces [next, r.1, r.2] 0
      backwards limit state rs d

end SetDraft

/-- The machine with the states for a set of characters added. -/
def growSet (limit : Nat) (d : Direction) (seqs : List (List Unicode.ByteRange)) (e : Extent) :
    Option Extent :=
  if seqs.all (·.length ≤ 1) then
    e.grow limit 2 (Extent.transitionBytes * seqs.length)
  else
    match d with
    | .forwards => do
        let e' ← e.grow limit 1 0
        let (_, draft) ← SetDraft.forwards limit e.states 4 seqs ⟨e', ∅⟩
        some draft.extent
    | .backwards => do
        let e' ← e.grow limit 2 (Extent.numberBytes * seqs.length)
        let draft ← seqs.foldlM (fun draft s => SetDraft.backwards limit (e.states + 1) s draft)
          (⟨e', ∅⟩ : SetDraft)
        some draft.extent

/-- Splits a list of literals at the empty ones. -/
def splitAtEmpty : List (List Nat) → List (List (List Nat))
  | [] => [[]]
  | [] :: rest => [] :: splitAtEmpty rest
  | l :: rest =>
      match splitAtEmpty rest with
      | [] => [[l]]
      | chunk :: chunks => (l :: chunk) :: chunks

/-- Drops empty lists behind the first one at the start. -/
def dropRepeats : List (List (List Nat)) → List (List (List Nat))
  | [] :: [] :: rest => dropRepeats ([] :: rest)
  | chunks => chunks

/-- The bytes that literals begin with, each once, and what may follow each. -/
def byFirstByte (ls : List (List Nat)) : List (Nat × List (List Nat)) :=
  let heads := ls.filterMap List.head?
  (heads.eraseDups).map fun b => (b, (ls.filter (·.head? == some b)).map (·.drop 1))

/-- The states of a tree that branches where literals differ; `depth` is the length of the longest
literal.  A literal that ends where others go on divides the branches into those before it and those
behind. -/
def treeExtent : Nat → List (List Nat) → Extent
  | 0, _ => ⟨0, 0⟩
  | depth + 1, ls =>
      if ls.all (·.isEmpty) then ⟨0, 0⟩
      else
        let chunks := (dropRepeats (splitAtEmpty ls)).map byFirstByte
        let inner := chunks.flatten.map fun g => treeExtent depth g.2
        let full := chunks.filter fun c => !c.isEmpty
        let listed := full.map fun c =>
          if c.length = 1 then 0 else Extent.transitionBytes * c.length
        inner.foldl (fun a b => ⟨a.states + b.states, a.listed + b.listed⟩)
          ⟨full.length + 1, listed.foldl (· + ·) 0 +
            Extent.numberBytes * (full.length + chunks.length - 1)⟩

/-- The place of an alternative in a choice. -/
inductive Role where
  | first
  | second
  | later
  deriving DecidableEq, Repr

namespace Role

def next : Role → Role
  | first => second
  | _ => later

/-- Connects an alternative.  The choice itself is made when there is a second one. -/
def close (limit : Nat) (e : Extent) : Role → Option Extent
  | first => some e
  | second => e.grow limit 2 (2 * Extent.numberBytes)
  | later => e.grow limit 0 Extent.numberBytes

end Role

/-- The bytes of the branches of a state with two of them. -/
def twoBranches : Nat := 2 * Extent.numberBytes

namespace Form

/-- The machine with the states for a form added, in the given role. -/
def extend (limit : Nat) (d : Direction) :
    Form (List (List Unicode.ByteRange)) → Role → Extent → Option Extent
  | empty, role, e => do role.close limit (← e.grow limit 1 0)
  | never, role, e => do role.close limit (← e.grow limit 2 0)
  | literal cs, role, e => do
      role.close limit (← e.grow limit (cs.flatMap Unicode.encode).length 0)
  | set seqs, role, e => do role.close limit (← growSet limit d seqs e)
  | look _, role, e => do role.close limit (← e.grow limit 1 0)
  | group a, role, e =>
      match d with
      | .forwards => do
          let e ← a.extend limit d .first (← e.grow limit 1 0)
          role.close limit (← e.grow limit 1 0)
      | .backwards => do role.close limit (← a.extend limit d .first e)
  | concat a b, role, e =>
      match d with
      | .forwards => do role.close limit (← b.extend limit d .first (← a.extend limit d .first e))
      | .backwards => do role.close limit (← a.extend limit d .first (← b.extend limit d .first e))
  | either a b, role, e =>
      match role, (either a b).literals? with
      | .first, some ls =>
          let bytes := ls.map fun l =>
            let bs := l.flatMap Unicode.encode
            if d = .forwards then bs else bs.reverse
          let depth := (bytes.map List.length).foldl max 0
          let tree := treeExtent depth bytes
          e.grow limit (tree.states + 1) tree.listed
      | role, _ => do
          let e ← role.close limit (← a.extend limit d .first e)
          b.extend limit d role.next e
  | repetition least most _ a, role, e => do
      let copy := a.extend limit d .first
      let e ← match least, most with
        | 0, some 1 => do
            let e ← copy (← e.grow limit 1 twoBranches)
            e.grow limit 1 0
        | 0, none =>
            if a.consumes = some true then do copy (← e.grow limit 1 twoBranches)
            else do (← copy e).grow limit 3 (2 * twoBranches)
        | least, none => do (← Extent.times copy least e).grow limit 1 twoBranches
        | least, some most => do
            let e ← if least = 0 then e.grow limit 1 0 else Extent.times copy least e
            if least = most then some e
            else
              let e ← e.grow limit 1 0
              Extent.times (fun e => do copy (← e.grow limit 1 twoBranches)) (most - least) e
      role.close limit e

/-- The size of the machine that reads in a direction, if it keeps within the limit: what looks for
a start, unless the form matches at the start of a reading only, and what matches. -/
def machine? (limit : Nat) (d : Direction) (f : Form (List (List Unicode.ByteRange))) :
    Option Extent := do
  let anchored := if d = .forwards then f.startsText else f.endsText
  let e ← if anchored then Extent.grow limit 1 0 ⟨0, 0⟩
    else Extent.grow limit 3 (twoBranches + Extent.transitionBytes) ⟨0, 0⟩
  let e ← (if d = .forwards then group f else f).extend limit d .first e
  e.grow limit 1 0

/-- Whether the machines for a form keep within a limit, if it needs any. -/
def fits (limit : Nat) (f : Form Unicode.Runs) : Bool :=
  let g := f.map Unicode.sequences
  f.needsNoMachine || ((g.machine? limit .forwards).isSome && (g.machine? limit .backwards).isSome)

end Form

/-- Whether the machines for a pattern keep within a limit. -/
def Node.fits (limit : Nat) (n : Node) : Bool := (Form.ofNode n).fits limit

end RuleMatching.Pattern
