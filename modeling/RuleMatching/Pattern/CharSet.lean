import RuleMatching.Unicode.Age
import RuleMatching.Unicode.Break
import RuleMatching.Unicode.Folding
import RuleMatching.Unicode.Script

/-!
Sets of characters as patterns write them: ranges, named properties, and what is built from sets by
union, intersection, difference and complement, or by adding what is alike up to case.
-/

set_option autoImplicit false
set_option relaxedAutoImplicit false

namespace RuleMatching.Pattern

/-- A set of characters that has a name. -/
inductive NamedSet where
  | any
  | ascii
  | assigned
  | digit
  | space
  | word
  | categories (ks : List Unicode.Category)
  | property (name : String)
  | script (name : String)
  | scriptUsage (name : String)
  | age (name : String)
  | graphemeBreak (name : String)
  | wordBreak (name : String)
  | sentenceBreak (name : String)
  deriving DecidableEq, Repr

namespace NamedSet

/-- The code points of a named set, if there is one of that name. -/
def set? : NamedSet → Option Unicode.CodeSet
  | any => some (.complement .empty)
  | ascii => some (.runs [0, 128])
  | assigned => some Unicode.assigned
  | digit => some (Unicode.ofCategories [.decimalNumber])
  | space => some Unicode.whiteSpace
  | word => some Unicode.wordParts
  | categories ks => some (Unicode.ofCategories ks)
  | property name => Unicode.CodeSet.named? name Unicode.properties
  | script name => (Unicode.Script.named? name).map Unicode.Script.set
  | scriptUsage name => (Unicode.Script.named? name).map Unicode.Script.usageSet
  | age name => Unicode.assignedBy? name Unicode.versions
  | graphemeBreak name => Unicode.CodeSet.named? name Unicode.graphemeBreaks
  | wordBreak name => Unicode.CodeSet.named? name Unicode.wordBreaks
  | sentenceBreak name => Unicode.CodeSet.named? name Unicode.sentenceBreaks

/-- The code points of a named set; a name that does not exist has none. -/
def set (s : NamedSet) : Unicode.CodeSet := s.set?.getD .empty

/-- Whether a code point belongs to a named set. -/
def holds (s : NamedSet) (n : Nat) : Bool := s.set.holds n

end NamedSet

/-- A set of characters. -/
inductive CharSet where
  | empty
  | range (low high : Nat)
  | named (s : NamedSet)
  | union (a b : CharSet)
  | intersection (a b : CharSet)
  | difference (a b : CharSet)
  | symmetricDifference (a b : CharSet)
  | complement (a : CharSet)
  | upToCase (a : CharSet)
  | upToAsciiCase (a : CharSet)
  deriving DecidableEq, Repr

namespace CharSet

def single (c : Char) : CharSet := range c.toNat c.toNat

/-- The letter of ASCII with the other case, if the code point is a letter of ASCII. -/
def otherAsciiCase (n : Nat) : List Nat :=
  if 65 ≤ n ∧ n ≤ 90 then [n + 32] else if 97 ≤ n ∧ n ≤ 122 then [n - 32] else []

def holds : CharSet → Nat → Bool
  | empty, _ => false
  | range low high, n => low ≤ n && n ≤ high
  | named s, n => s.holds n
  | union a b, n => a.holds n || b.holds n
  | intersection a b, n => a.holds n && b.holds n
  | difference a b, n => a.holds n && !b.holds n
  | symmetricDifference a b, n => a.holds n != b.holds n
  | complement a, n => !a.holds n
  | upToCase a, n => (Unicode.caseClass n).any a.holds
  | upToAsciiCase a, n => a.holds n || (otherAsciiCase n).any a.holds

def unions : List CharSet → CharSet
  | [] => empty
  | [a] => a
  | a :: b :: r => union a (unions (b :: r))

def ofRanges (rs : List (Nat × Nat)) : CharSet := unions (rs.map fun r => range r.1 r.2)

def asciiClasses : List (String × CharSet) :=
  [("alnum", ofRanges [(48, 57), (65, 90), (97, 122)]),
   ("alpha", ofRanges [(65, 90), (97, 122)]),
   ("ascii", ofRanges [(0, 127)]),
   ("blank", ofRanges [(9, 9), (32, 32)]),
   ("cntrl", ofRanges [(0, 31), (127, 127)]),
   ("digit", ofRanges [(48, 57)]),
   ("graph", ofRanges [(33, 126)]),
   ("lower", ofRanges [(97, 122)]),
   ("print", ofRanges [(32, 126)]),
   ("punct", ofRanges [(33, 47), (58, 64), (91, 96), (123, 126)]),
   ("space", ofRanges [(9, 13), (32, 32)]),
   ("upper", ofRanges [(65, 90)]),
   ("word", ofRanges [(48, 57), (65, 90), (95, 95), (97, 122)]),
   ("xdigit", ofRanges [(48, 57), (65, 70), (97, 102)])]

def asciiClass? (name : String) : Option CharSet :=
  (asciiClasses.find? fun c => c.1 == name).map (·.2)

/-- The letters of ASCII with the other case than letters in a set. -/
def otherAsciiRuns (rs : Unicode.Runs) : Unicode.Runs :=
  Unicode.Runs.ofAscending ((List.range 128).filter fun n =>
    (otherAsciiCase n).any (Unicode.within rs))

def runs : CharSet → Unicode.Runs
  | empty => []
  | range low high => if low ≤ high then [low, high + 1] else []
  | named s => s.set.toRuns
  | union a b => Unicode.Runs.combine (· || ·) a.runs b.runs
  | intersection a b => Unicode.Runs.combine (· && ·) a.runs b.runs
  | difference a b => Unicode.Runs.combine (fun x y => x && !y) a.runs b.runs
  | symmetricDifference a b => Unicode.Runs.combine (fun x y => x != y) a.runs b.runs
  | complement a => a.runs.complement
  | upToCase a => Unicode.closeCase a.runs
  | upToAsciiCase a => Unicode.Runs.combine (· || ·) a.runs (otherAsciiRuns a.runs)

end CharSet

end RuleMatching.Pattern
