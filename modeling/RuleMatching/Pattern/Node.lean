import RuleMatching.Pattern.CharSet

/-!
Patterns as trees.  A pattern matches characters from a set one at a time; alternatives and
repetitions are tried in an order, and the order decides between the matches at one place.
-/

set_option autoImplicit false
set_option relaxedAutoImplicit false

namespace RuleMatching.Pattern

/-- A condition on a place between two characters. -/
inductive Look where
  | textStart
  | textEnd
  | lineStart (crlf : Bool)
  | lineEnd (crlf : Bool)
  | wordBoundary (ascii : Bool)
  | noWordBoundary (ascii : Bool)
  | wordStart (ascii : Bool)
  | wordEnd (ascii : Bool)
  | wordStartHalf (ascii : Bool)
  | wordEndHalf (ascii : Bool)
  deriving DecidableEq, Repr

def isWordChar (ascii : Bool) (c : Option Char) : Bool :=
  c.any fun c =>
    if ascii then c.isAlphanum || c == '_'
    else if c.toNat < 128 then c.isAlphanum || c == '_' else Unicode.wordParts.holds c.toNat

/-- Whether the condition holds between two characters, of which there may be none at the ends of
the text. -/
def Look.holds (before after : Option Char) : Look → Bool
  | textStart => before.isNone
  | textEnd => after.isNone
  | lineStart false => before.isNone || before == some '\n'
  | lineStart true =>
      before.isNone || before == some '\n' || (before == some '\r' && after != some '\n')
  | lineEnd false => after.isNone || after == some '\n'
  | lineEnd true =>
      after.isNone || after == some '\r' || (after == some '\n' && before != some '\r')
  | wordBoundary a => isWordChar a before != isWordChar a after
  | noWordBoundary a => isWordChar a before == isWordChar a after
  | wordStart a => !isWordChar a before && isWordChar a after
  | wordEnd a => isWordChar a before && !isWordChar a after
  | wordStartHalf a => !isWordChar a before
  | wordEndHalf a => !isWordChar a after

/-- A pattern.  A group may capture what it matches. -/
inductive Node where
  | empty
  | one (s : CharSet)
  | look (l : Look)
  | concat (a b : Node)
  | either (a b : Node)
  | repetition (least : Nat) (most : Option Nat) (greedy : Bool) (a : Node)
  | group (captures : Bool) (a : Node)
  deriving DecidableEq, Repr

namespace Node

def sequence : List Node → Node
  | [] => empty
  | [a] => a
  | a :: b :: r => concat a (sequence (b :: r))

def choice : List Node → Node
  | [] => empty
  | [a] => a
  | a :: b :: r => either a (choice (b :: r))

/-- Whether the pattern can only match the empty text. -/
def isZeroWidth : Node → Bool
  | empty => true
  | one _ => false
  | look _ => true
  | concat a b => a.isZeroWidth && b.isZeroWidth
  | either a b => a.isZeroWidth && b.isZeroWidth
  | repetition _ most _ a => most == some 0 || a.isZeroWidth
  | group _ a => a.isZeroWidth

/-- Repeats a pattern.  Repeating what can only match the empty text more than once does nothing. -/
def repeated (least : Nat) (most : Option Nat) (greedy : Bool) (a : Node) : Node :=
  if a.isZeroWidth then repetition (min least 1) (some (min (most.getD 1) 1)) greedy a
  else repetition least most greedy a

end Node

end RuleMatching.Pattern
