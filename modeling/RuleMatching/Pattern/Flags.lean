import RuleMatching.Text.Blank

/-!
The flags that govern how the text of a pattern is read, and what a verbose pattern skips.
-/

set_option autoImplicit false
set_option relaxedAutoImplicit false

namespace RuleMatching.Pattern

/-- The name of a flag. -/
inductive FlagName where
  | ignoreCase
  | multiLine
  | dotAll
  | swapGreed
  | unicode
  | crlf
  | verbose
  deriving DecidableEq, Repr

def FlagName.ofLetter? (c : Char) : Option FlagName :=
  if c = 'i' then some ignoreCase
  else if c = 'm' then some multiLine
  else if c = 's' then some dotAll
  else if c = 'U' then some swapGreed
  else if c = 'u' then some unicode
  else if c = 'R' then some crlf
  else if c = 'x' then some verbose
  else none

/-- The flags in force. -/
structure Flags where
  ignoreCase : Bool
  multiLine : Bool
  dotAll : Bool
  swapGreed : Bool
  unicode : Bool
  crlf : Bool
  verbose : Bool
  deriving DecidableEq, Repr

namespace Flags

def initial : Flags := ⟨false, false, false, false, true, false, false⟩

def set (f : Flags) (name : FlagName) (on : Bool) : Flags :=
  match name with
  | .ignoreCase => { f with ignoreCase := on }
  | .multiLine => { f with multiLine := on }
  | .dotAll => { f with dotAll := on }
  | .swapGreed => { f with swapGreed := on }
  | .unicode => { f with unicode := on }
  | .crlf => { f with crlf := on }
  | .verbose => { f with verbose := on }

def setAll (f : Flags) (settings : List (FlagName × Bool)) : Flags :=
  settings.foldl (fun f s => f.set s.1 s.2) f

/-- Skips blanks and comments, which reach to the end of their line. -/
def skipComments (inComment : Bool) : List Char → List Char
  | [] => []
  | c :: cs =>
      if inComment then skipComments (c != '\n') cs
      else if Text.isBlank c then skipComments false cs
      else if c = '#' then skipComments true cs
      else c :: cs

/-- Skips what does not count in a verbose pattern; elsewhere everything counts. -/
def skip (f : Flags) (cs : List Char) : List Char :=
  if f.verbose then skipComments false cs else cs

/-- The first character that counts.  In a verbose pattern blanks and the mark of a comment do
not. -/
def peek (f : Flags) (cs : List Char) : Option Char :=
  if f.verbose then
    match cs.dropWhile Text.isBlank with
    | [] => cs.head?
    | '#' :: r =>
        match r.dropWhile Text.isBlank with
        | [] => cs.head?
        | c :: _ => some c
    | c :: _ => some c
  else cs.head?

end Flags

/-- Reads the settings in front of the colon or parenthesis that ends them.  Each flag may occur
once, and a minus sign once, with a flag behind it. -/
def readSettings (negated dangling : Bool) (seen : List FlagName) :
    List Char → Option (List (FlagName × Bool) × List Char)
  | [] => none
  | c :: cs =>
      if c = ':' ∨ c = ')' then if dangling then none else some ([], c :: cs)
      else if c = '-' then if negated then none else readSettings true true seen cs
      else
        match FlagName.ofLetter? c with
        | none => none
        | some f =>
            if seen.contains f then none
            else (readSettings negated false (f :: seen) cs).map fun r =>
              ((f, !negated) :: r.1, r.2)

end RuleMatching.Pattern
