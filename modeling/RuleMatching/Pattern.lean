import RuleMatching.Pattern.Machine
import RuleMatching.Pattern.Reader
import RuleMatching.Pattern.Search

/-!
Patterns, ready to be searched for.  A text is a pattern if it can be read as one and the machines
for it are not larger than a limit.
-/

set_option autoImplicit false
set_option relaxedAutoImplicit false

namespace RuleMatching

/-- A pattern, as the program that searches for it. -/
structure Pattern where
  program : Pattern.Program
  deriving DecidableEq, Repr

namespace Pattern

/-- The limit on the size of machines if no other is set. -/
def defaultLimit : Nat := 10 * 1024 * 1024

/-- The pattern that a text stands for, if the machines for it keep within the limit. -/
def ofText? (limit : Option Nat) (source : String) : Option Pattern :=
  match readNode? source.toList with
  | some n => if n.fits (limit.getD defaultLimit) then some ⟨.ofNode n⟩ else none
  | none => none

/-- Whether a text stands for a pattern within the limit. -/
def isValid (limit : Option Nat) (source : String) : Bool := (ofText? limit source).isSome

def occursIn (p : Pattern) (text : String) : Bool := p.program.occurs text.toList

/-- A match: the text that matched and where it starts and ends, in bytes. -/
structure Match where
  text : String
  start : Nat
  stop : Nat
  deriving DecidableEq, Repr

/-- The part of a text from one byte to another. -/
def cut (text : List Char) (start stop : Nat) : List Char :=
  match text with
  | [] => []
  | c :: cs =>
      if stop = 0 then []
      else if start = 0 then c :: cut cs 0 (stop - c.utf8Size)
      else cut cs (start - c.utf8Size) (stop - c.utf8Size)

/-- The matches in a text, from left to right, none of which overlap. -/
def matchesIn (p : Pattern) (text : String) : List Match :=
  (p.program.spans text.toList).map fun s =>
    ⟨String.ofList (cut text.toList s.start s.stop), s.start, s.stop⟩

end Pattern

end RuleMatching
