import RuleMatching.Pattern.Program

/-!
Searching a text for the matches of a program.  A thread is a step to go on with.  At each place of
the text the threads are kept in order of preference, no two at one step, and a thread that has
matched hides those behind it; a thread that starts further on comes behind those that started
before.  So the match found is the first one, and of those that start there the one that trying the
alternatives in order would find first.
-/

set_option autoImplicit false
set_option relaxedAutoImplicit false

namespace RuleMatching.Pattern

/-- A thread: the number of the step to go on with, and the place in the text where it started. -/
structure Thread where
  step : Nat
  start : Nat
  deriving DecidableEq, Repr

/-- A match: where it starts and ends, in bytes. -/
structure Span where
  start : Nat
  stop : Nat
  deriving DecidableEq, Repr

namespace Program

/-- Takes threads, in order of preference, to the place behind the next character, as far as they
can read it, and up to one that has matched.  The results are the threads behind the character, and
where the one that has matched started.  `seen` says at which steps a thread has been; `fuel` bounds
the number of steps. -/
def advance (p : Program) (before after : Option Char) :
    Nat → Array Bool → List Thread → List Thread → List Thread × Option Nat
  | 0, _, next, _ => (next.reverse, none)
  | _ + 1, _, next, [] => (next.reverse, none)
  | fuel + 1, seen, next, t :: ts =>
      match p[t.step]? with
      | none => (next.reverse, some t.start)
      | some step =>
          if seen.getD t.step false then p.advance before after fuel seen next ts
          else
            let seen := seen.setIfInBounds t.step true
            let behind := { t with step := t.step + 1 }
            match step with
            | .read s =>
                let reads := after.any fun c => s.holds c.toNat
                p.advance before after fuel seen (if reads then behind :: next else next) ts
            | .look l =>
                let holds := l.holds before after
                p.advance before after fuel seen next (if holds then behind :: ts else ts)
            | .jump a => p.advance before after fuel seen next ({ t with step := a } :: ts)
            | .fork a b =>
                p.advance before after fuel seen next
                  ({ t with step := a } :: { t with step := b } :: ts)

/-- The number of steps that taking threads to the next place needs at most: each step of the
program counts once, where it may put two threads in the place of one. -/
def advanceBound (p : Program) (threads : List Thread) : Nat := threads.length + 2 * p.size + 3

/-- Runs threads over a text from the place `at_`.  Until there is a match, a thread starts at each
place.  The result is the preferred match, and `best` if there is none better. -/
def run (p : Program) (threads : List Thread) (best : Option Span) (before : Option Char)
    (at_ : Nat) (cs : List Char) : Option Span :=
  let threads := if best.isNone then threads ++ [⟨0, at_⟩] else threads
  let (next, found) := p.advance before cs.head? (p.advanceBound threads)
    (Array.replicate p.size false) [] threads
  let best := (found.map fun start => ⟨start, at_⟩).or best
  match cs with
  | [] => best
  | c :: cs =>
      if next.isEmpty && best.isSome then best
      else p.run next best (some c) (at_ + c.utf8Size) cs

/-- The first match at the place `at_` or further on. -/
def search? (p : Program) (before : Option Char) (at_ : Nat) (cs : List Char) : Option Span :=
  p.run [] none before at_ cs

/-- The matches from the place `at_` on, where `last` is the end of the match before.  Matches do
not overlap, and an empty one does not touch the one before it. -/
def spansFrom (p : Program) (last : Option Nat) (before : Option Char) (at_ : Nat) :
    List Char → List Span
  | [] =>
      if at_ < last.getD 0 then []
      else (p.search? before at_ []).toList.filter fun s => last != some s.stop
  | c :: cs =>
      if at_ < last.getD 0 then p.spansFrom last (some c) (at_ + c.utf8Size) cs
      else
        match p.search? before at_ (c :: cs) with
        | none => []
        | some s =>
            if last = some s.stop then p.spansFrom last (some c) (at_ + c.utf8Size) cs
            else s :: p.spansFrom (some s.stop) (some c) (at_ + c.utf8Size) cs

/-- The matches in a text, from left to right. -/
def spans (p : Program) (text : List Char) : List Span := p.spansFrom none none 0 text

def occurs (p : Program) (text : List Char) : Bool := (p.search? none 0 text).isSome

end Program

end RuleMatching.Pattern
