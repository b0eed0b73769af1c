import RuleMatching.Pattern.Class
import RuleMatching.Unicode.Later

/-!
Reading the text of a pattern, from left to right.  The reader keeps the flags in force and a stack
of the groups that are open, each with the flags to go back to behind it.
-/

set_option autoImplicit false
set_option relaxedAutoImplicit false

namespace RuleMatching.Pattern

/-- A part of a sequence: a pattern with the depth of its nesting, or a setting of flags. -/
inductive Part where
  | node (n : Node) (depth : Nat)
  | setting
  deriving DecidableEq, Repr

namespace Part

def node? : Part → Option Node
  | node n _ => some n
  | setting => none

def depth : Part → Nat
  | node _ d => d
  | setting => 0

end Part

/-- The depth of a list of parts that are held together. -/
def joinedDepth : List Nat → Nat
  | [] => 0
  | [d] => d
  | ds => 1 + ds.foldr max 0

/-- What has been read of a group: its finished alternatives and the parts of the one being read,
the last in front. -/
structure Level where
  branches : List (Node × Nat)
  parts : List Part
  deriving Repr

namespace Level

def empty : Level := ⟨[], []⟩

def add (level : Level) (part : Part) : Level := { level with parts := part :: level.parts }

def branch (level : Level) : Node × Nat :=
  (.sequence (level.parts.reverse.filterMap Part.node?), joinedDepth (level.parts.map Part.depth))

def next (level : Level) : Level := ⟨level.branch :: level.branches, []⟩

def close (level : Level) : Node × Nat :=
  let branches := (level.branch :: level.branches).reverse
  (.choice (branches.map (·.1)), joinedDepth (branches.map (·.2)))

end Level

/-- A group around what is being read: what was read of it, the flags to go back to, and whether
what is being read inside captures what it matches. -/
structure Surrounding where
  level : Level
  flags : Flags
  captures : Bool

/-- What has been read of a pattern: the flags in force, the group being read, the groups around it,
and the names of groups. -/
structure Reader where
  flags : Flags
  level : Level
  stack : List Surrounding
  names : List (List Char)

namespace Reader

def start : Reader := ⟨.initial, .empty, [], []⟩

def add (r : Reader) (part : Part) : Reader := { r with level := r.level.add part }

def addNode (r : Reader) (n : Node) : Reader := r.add (.node n 0)

/-- Opens a group in which the given flags are in force. -/
def openGroup (r : Reader) (inner : Flags) (captures : Bool) : Reader :=
  { r with flags := inner, level := .empty, stack := ⟨r.level, r.flags, captures⟩ :: r.stack }

/-- Closes the group being read, if one is open. -/
def closeGroup (r : Reader) : Option Reader :=
  match r.stack with
  | [] => none
  | outer :: stack =>
      let (n, d) := r.level.close
      let part := .node (.group outer.captures n) (d + 1)
      some { r with flags := outer.flags, level := outer.level.add part, stack := stack }

/-- The finished pattern with the depth of its nesting, if no group is open. -/
def finish (r : Reader) : Option (Node × Nat) :=
  match r.stack with
  | [] => some r.level.close
  | _ :: _ => none

/-- Repeats the last part, which must be a pattern.  Behind the operator a question mark prefers
fewer repetitions, and the flag for that turns the preference round. -/
def repeatLast (r : Reader) (least : Nat) (most : Option Nat) (cs : List Char) :
    Option (Reader × List Char) :=
  match r.level.parts with
  | .node n d :: parts =>
      let lazy := cs.head? == some '?'
      let part := .node (.repeated least most (lazy == r.flags.swapGreed) n) (d + 1)
      some ({ r with level := { r.level with parts := part :: parts } },
        if lazy then cs.drop 1 else cs)
  | _ => none

end Reader

/-- Reads digits, and in a verbose pattern what may stand between them; `fuel` bounds their
number. -/
def readDigits (f : Flags) : Nat → List Char → List Char → List Char × List Char
  | 0, ds, cs => (ds.reverse, cs)
  | fuel + 1, ds, cs =>
      match cs with
      | [] => (ds.reverse, [])
      | c :: r =>
          if c.isDigit then readDigits f fuel (c :: ds) (f.skip r) else (ds.reverse, c :: r)

/-- The bound below which counts have to be, so that they fit 32 bits. -/
def countBound : Nat := 4294967296

/-- A decimal number, if there is one and it is below the bound. -/
def countOf? (ds : List Char) : Option Nat := (Numeral.digits? ds).filter (· < countBound)

/-- Reads a decimal number with blanks around it.  The first result is what stands in its place. -/
def readCount (f : Flags) (cs : List Char) : List Char × List Char :=
  let cs := Text.trimStart cs
  let (ds, rest) := readDigits f cs.length [] cs
  (ds, Text.trimStart rest)

/-- Reads how often something is repeated, from behind the opening brace. -/
def readCounts (f : Flags) (cs : List Char) : Option ((Nat × Option Nat) × List Char) :=
  let (ds, rest) := readCount f (f.skip cs)
  match rest with
  | ',' :: r =>
      match f.skip r with
      | '\x7d' :: rest => do
          let least ← countOf? ds
          some ((least, none), rest)
      | r => do
          let least ← countOf? ds
          let (es, rest) := readCount f r
          let most ← countOf? es
          match rest with
          | '\x7d' :: rest => if least ≤ most then some ((least, some most), rest) else none
          | _ => none
  | '\x7d' :: rest => do
      let count ← countOf? ds
      some ((count, some count), rest)
  | _ => none

/-- Whether a character may stand first in the name of a group. -/
def startsName (c : Char) : Bool := c == '_' || Unicode.isAlphabetic c.toNat

/-- Whether a character may stand in the name of a group. -/
def continuesName (c : Char) : Bool :=
  startsName c || c == '.' || c == '[' || c == ']' || Unicode.isNumber c.toNat

/-- Reads the name of a group up to the bracket behind it. -/
def readName (cs : List Char) : Option (List Char × List Char) :=
  let name := cs.takeWhile (· ≠ '>')
  match name, cs.dropWhile (· ≠ '>') with
  | c :: r, _ :: rest =>
      if startsName c && r.all continuesName then some (name, rest) else none
  | _, _ => none

/-- Opens a group with a name that no other group has. -/
def openNamed (r : Reader) (cs : List Char) : Option (Reader × List Char) := do
  let (name, rest) ← readName cs
  if r.names.contains name then none
  some ({ r.openGroup r.flags true with names := name :: r.names }, rest)

/-- Reads what stands behind an opening parenthesis: nothing, a name, or settings of flags for the
group or for what follows. -/
def readGroup (r : Reader) (cs : List Char) : Option (Reader × List Char) :=
  match cs with
  | '?' :: '=' :: _ => none
  | '?' :: '!' :: _ => none
  | '?' :: '<' :: '=' :: _ => none
  | '?' :: '<' :: '!' :: _ => none
  | '?' :: 'P' :: '<' :: rest => openNamed r rest
  | '?' :: '<' :: rest => openNamed r rest
  | '?' :: rest => do
      let (settings, rest) ← readSettings false false [] rest
      match rest with
      | ')' :: rest =>
          if settings.isEmpty then none
          else some ({ r.add .setting with flags := r.flags.setAll settings }, rest)
      | _ :: rest => some (r.openGroup (r.flags.setAll settings) false, rest)
      | [] => none
  | _ => some (r.openGroup r.flags true, cs)

def dotSet? (f : Flags) : Option CharSet :=
  if !f.unicode then none
  else if f.dotAll then some (.named .any)
  else if f.crlf then some (.complement (.union (.single '\r') (.single '\n')))
  else some (.complement (.single '\n'))

/-- The pattern for a character that stands for itself.  Over bytes a byte must be one of ASCII. -/
def literalNode? (f : Flags) (c : Char) (byte : Bool) : Option Node :=
  if byte && !f.unicode && 128 ≤ c.toNat then none
  else if f.ignoreCase && f.unicode then some (.one (.upToCase (.single c)))
  else if f.ignoreCase && c.isAlpha then some (.one (.upToAsciiCase (.single c)))
  else some (.one (.single c))

/-- The condition at the start of a text or of a line. -/
def startLook (f : Flags) : Look := if f.multiLine then .lineStart f.crlf else .textStart

/-- The condition at the end of a text or of a line. -/
def endLook (f : Flags) : Look := if f.multiLine then .lineEnd f.crlf else .textEnd

def readEscaped (r : Reader) (cs : List Char) : Option (Reader × List Char) := do
  let (unit, rest) ← readEscape r.flags cs
  match unit with
  | .literal c byte => do
      let n ← literalNode? r.flags c byte
      some (r.addNode n, rest)
  | .set s => some (r.addNode (.one s), rest)
  | .look l => some (r.addNode (.look l), rest)

def readOn (r : Reader) (c : Char) (cs : List Char) : Option (Reader × List Char) :=
  match c with
  | '(' => readGroup r (r.flags.skip cs)
  | ')' => r.closeGroup.map fun r => (r, cs)
  | '|' => some ({ r with level := r.level.next }, cs)
  | '[' => do
      let (s, rest) ← readClass r.flags cs
      some (r.add (.node (.one s.set) s.depth), rest)
  | '?' => r.repeatLast 0 (some 1) cs
  | '*' => r.repeatLast 0 none cs
  | '+' => r.repeatLast 1 none cs
  | '\x7b' => do
      let ((least, most), rest) ← readCounts r.flags cs
      r.repeatLast least most (r.flags.skip rest)
  | '\\' => readEscaped r cs
  | '.' => (dotSet? r.flags).map fun s => (r.addNode (.one s), cs)
  | '^' => some (r.addNode (.look (startLook r.flags)), cs)
  | '$' => some (r.addNode (.look (endLook r.flags)), cs)
  | c => (literalNode? r.flags c false).map fun n => (r.addNode n, cs)

/-- Reads a pattern to its end; `fuel` bounds the number of steps. -/
def readParts : Nat → Reader → List Char → Option (Node × Nat)
  | 0, _, _ => none
  | fuel + 1, r, cs =>
      match r.flags.skip cs with
      | [] => r.finish
      | c :: rest => do
          let (r, rest) ← readOn r c rest
          readParts fuel r rest

def maxNesting : Nat := 250

def readNode? (cs : List Char) : Option Node :=
  match readParts (cs.length + 1) .start cs with
  | some (n, depth) => if depth ≤ maxNesting then some n else none
  | none => none

end RuleMatching.Pattern
