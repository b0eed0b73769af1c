import RuleMatching.Pattern.Flags
import RuleMatching.Pattern.Node
import RuleMatching.Text.Numeral
import RuleMatching.Text.Pieces

/-!
What a backslash in a pattern stands for: a character, a set of characters or a condition on a
place.
-/

set_option autoImplicit false
set_option relaxedAutoImplicit false

namespace RuleMatching.Pattern

/-- A unit of a pattern.  A literal may be given as a byte, by two hexadecimal digits. -/
inductive Unit where
  | literal (c : Char) (byte : Bool)
  | set (s : CharSet)
  | look (l : Look)
  deriving DecidableEq, Repr

def readHexDigits (f : Flags) : Nat → Nat → List Char → Option (Nat × List Char)
  | 0, n, cs => some (n, cs)
  | count + 1, n, cs =>
      match cs with
      | [] => none
      | c :: r => do
          let d ← Numeral.hexValue? c
          readHexDigits f count (16 * n + d) (f.skip r)

/-- Reads hexadecimal digits up to a closing brace; `fuel` bounds their number. -/
def readHexBraced (f : Flags) : Nat → List Nat → List Char → Option (List Nat × List Char)
  | 0, _, _ => none
  | fuel + 1, ds, cs =>
      match f.skip cs with
      | [] => none
      | '\x7d' :: r => some (ds.reverse, f.skip r)
      | c :: r => do
          let d ← Numeral.hexValue? c
          readHexBraced f fuel (d :: ds) r

/-- The character with a number, if there is one. -/
def charOfNat? (n : Nat) : Option Char := if n.isValidChar then some (Char.ofNat n) else none

/-- Reads the number of a character behind `\x`, `\u` or `\U`, which have so many digits. -/
def readHex (f : Flags) (digits : Nat) (cs : List Char) : Option (Unit × List Char) :=
  match f.skip cs with
  | [] => none
  | '\x7b' :: r => do
      let (ds, rest) ← readHexBraced f (r.length + 1) [] r
      if ds.isEmpty then none
      let c ← charOfNat? (ds.foldl (fun n d => 16 * n + d) 0)
      some (.literal c false, rest)
  | c :: r => do
      let (n, rest) ← readHexDigits f digits 0 (c :: r)
      let c ← charOfNat? n
      some (.literal c (digits == 2), rest)

/-- A name in the form in which names are compared: in lower case, without separators and without
`is` in front. -/
def normalizeName (name : List Char) : String :=
  let lower := name.map Char.toLower
  let hasIs := ['i', 's'].isPrefixOf lower
  let body := if hasIs then lower.drop 2 else lower
  let kept := body.filter fun c => c.toNat < 128 && c != ' ' && c != '_' && c != '-'
  if hasIs && kept == ['c'] then "isc" else String.ofList kept

def categorySet? (name : String) : Option CharSet :=
  if name = "any" then some (.named .any)
  else if name = "assigned" then some (.named .assigned)
  else if name = "ascii" then some (.named .ascii)
  else (Unicode.categoryNames.find? fun c => c.1.contains name).map fun c =>
    .named (.categories c.2)

/-- The set with a name, if there is one. -/
def known? (s : NamedSet) : Option CharSet := s.set?.map fun _ => .named s

/-- The set that a single name stands for: a property, a general category or a script. -/
def namedSet? (name : String) : Option CharSet :=
  match known? (.property name) with
  | some s => some s
  | none =>
      match categorySet? name with
      | some s => some s
      | none => known? (.script name)

/-- The set of the characters that have a value for a property. -/
def valueSet? (property value : String) : Option CharSet :=
  if property = "gc" ∨ property = "generalcategory" then categorySet? value
  else if property = "sc" ∨ property = "script" then known? (.script value)
  else if property = "scx" ∨ property = "scriptextensions" then known? (.scriptUsage value)
  else if property = "age" then known? (.age value)
  else if property = "gcb" ∨ property = "graphemeclusterbreak" then
    known? (.graphemeBreak value)
  else if property = "wb" ∨ property = "wordbreak" then known? (.wordBreak value)
  else if property = "sb" ∨ property = "sentencebreak" then known? (.sentenceBreak value)
  else none

/-- Cuts a text at the first occurrence of a separator. -/
def cutAt (separator : List Char) : List Char → Option (List Char × List Char)
  | [] => none
  | c :: cs =>
      if separator.isPrefixOf (c :: cs) then some ([], (c :: cs).drop separator.length)
      else (cutAt separator cs).map fun r => (c :: r.1, r.2)

/-- The set that the text between the braces of `\p` stands for. -/
def bracedSet? (text : List Char) : Option CharSet :=
  match cutAt ['!', '='] text with
  | some (p, v) => (valueSet? (normalizeName p) (normalizeName v)).map .complement
  | none =>
      match cutAt [':'] text with
      | some (p, v) => valueSet? (normalizeName p) (normalizeName v)
      | none =>
          match cutAt ['='] text with
          | some (p, v) => valueSet? (normalizeName p) (normalizeName v)
          | none => namedSet? (normalizeName text)

/-- Reads up to a closing brace; `fuel` bounds the number of characters. -/
def readBraced (f : Flags) : Nat → List Char → List Char → Option (List Char × List Char)
  | 0, _, _ => none
  | fuel + 1, seen, cs =>
      match f.skip cs with
      | [] => none
      | '\x7d' :: r => some (seen.reverse, r)
      | c :: r => readBraced f fuel (c :: seen) r

/-- Adds to a set what is alike up to case, if case is ignored. -/
def foldSet (f : Flags) (s : CharSet) : CharSet :=
  if f.ignoreCase then if f.unicode then .upToCase s else .upToAsciiCase s else s

/-- Takes the complement of what a set with a `!=` in it already is the complement of. -/
def complementIf (negated : Bool) (s : CharSet) : CharSet :=
  if negated then .complement s else s

/-- The set that a name stands for, up to case if case is ignored. -/
def propertyUnit (f : Flags) (negated : Bool) (s : CharSet) : Unit :=
  match s with
  | .complement t => .set (complementIf (!negated) (foldSet f t))
  | s => .set (complementIf negated (foldSet f s))

/-- Reads the name of a set behind `\p` or `\P`.  Patterns over bytes have no such sets. -/
def readProperty (f : Flags) (negated : Bool) (cs : List Char) : Option (Unit × List Char) :=
  if !f.unicode then none
  else
    match f.skip cs with
    | [] => none
    | '\x7b' :: r => do
        let (text, rest) ← readBraced f (r.length + 1) [] r
        let s ← bracedSet? text
        some (propertyUnit f negated s, rest)
    | c :: r => do
        if c = '\\' then none
        let s ← namedSet? (normalizeName [c])
        some (propertyUnit f negated s, f.skip r)

/-- The set behind `\d`, `\s` or `\w`; over bytes it is one of ASCII characters, and has no
complement. -/
def shorthand? (f : Flags) (c : Char) : Option CharSet :=
  let name := c.toLower
  let base := if name = 'd' then
      if f.unicode then some (.named .digit) else CharSet.asciiClass? "digit"
    else if name = 's' then
      if f.unicode then some (.named .space) else CharSet.asciiClass? "space"
    else if f.unicode then some (.named .word) else CharSet.asciiClass? "word"
  if c = name then base
  else if f.unicode then base.map .complement else none

/-- Whether a character may be named in a special word boundary. -/
def isBoundaryChar (c : Char) : Bool := c.isAlpha || c == '-'

/-- Reads the name of a special word boundary; `fuel` bounds its length. -/
def readBoundaryName (f : Flags) : Nat → List Char → List Char → List Char × List Char
  | 0, seen, cs => (seen.reverse, cs)
  | fuel + 1, seen, cs =>
      match cs with
      | [] => (seen.reverse, [])
      | c :: r =>
          if isBoundaryChar c then readBoundaryName f fuel (c :: seen) (f.skip r)
          else (seen.reverse, c :: r)

def boundaryNamed? (ascii : Bool) (name : String) : Option Look :=
  if name = "start" then some (.wordStart ascii)
  else if name = "end" then some (.wordEnd ascii)
  else if name = "start-half" then some (.wordStartHalf ascii)
  else if name = "end-half" then some (.wordEndHalf ascii)
  else none

/-- Reads what stands behind `\b`: a special word boundary in braces, or nothing that belongs to
it. -/
def readBoundary (f : Flags) (cs : List Char) : Option (Unit × List Char) :=
  match cs with
  | '\x7b' :: r =>
      match f.skip r with
      | [] => none
      | c :: r' =>
          if isBoundaryChar c then
            let (name, rest) := readBoundaryName f (r'.length + 1) [] (c :: r')
            match rest with
            | '\x7d' :: rest =>
                (boundaryNamed? (!f.unicode) (String.ofList name)).map fun l => (.look l, rest)
            | _ => none
          else some (.look (.wordBoundary (!f.unicode)), cs)
  | _ => some (.look (.wordBoundary (!f.unicode)), cs)

/-- Whether a character of ASCII stands for itself behind a backslash. -/
def isEscapable (c : Char) : Bool :=
  c.toNat < 128 && !c.isAlphanum && c != '<' && c != '>'

/-- Reads what a backslash stands for, from behind it. -/
def readEscape (f : Flags) : List Char → Option (Unit × List Char)
  | [] => none
  | c :: cs =>
      if c.isDigit then none
      else if c = 'x' then readHex f 2 cs
      else if c = 'u' then readHex f 4 cs
      else if c = 'U' then readHex f 8 cs
      else if c = 'p' then readProperty f false cs
      else if c = 'P' then readProperty f true cs
      else if ['d', 's', 'w', 'D', 'S', 'W'].contains c then
        (shorthand? f c).map fun s => (.set s, cs)
      else if isEscapable c then some (.literal c false, cs)
      else if c = 'a' then some (.literal '\x07' false, cs)
      else if c = 'f' then some (.literal '\x0c' false, cs)
      else if c = 't' then some (.literal '\t' false, cs)
      else if c = 'n' then some (.literal '\n' false, cs)
      else if c = 'r' then some (.literal '\r' false, cs)
      else if c = 'v' then some (.literal '\x0b' false, cs)
      else if c = 'A' then some (.look .textStart, cs)
      else if c = 'z' then some (.look .textEnd, cs)
      else if c = 'b' then readBoundary f cs
      else if c = 'B' then some (.look (.noWordBoundary (!f.unicode)), cs)
      else if c = '<' then some (.look (.wordStart (!f.unicode)), cs)
      else if c = '>' then some (.look (.wordEnd (!f.unicode)), cs)
      else none

end RuleMatching.Pattern
