import RuleMatching.Settings.Table
import RuleMatching.Text.Blank

/-!
Settings documents.  Each line gives a name a value, opens a table for the lines that follow, or
holds nothing.  Values are truth values, integers and strings in quotation marks.  No name and no
table may be given twice.
-/

set_option autoImplicit false
set_option relaxedAutoImplicit false

namespace RuleMatching.Setting

def isSpace (c : Char) : Bool := c == ' ' || c == '\t'

/-- Whether a character may stand in a comment or a string. -/
def isShown (c : Char) : Bool := c == '\t' || (0x20 ≤ c.toNat && c.toNat != 0x7F)

def skipSpaces (cs : List Char) : List Char := cs.dropWhile isSpace

/-- Whether a line is over: nothing follows, or a comment. -/
def isOver (cs : List Char) : Bool :=
  match skipSpaces cs with
  | [] => true
  | '#' :: r => r.all isShown
  | _ => false

def isNameChar (c : Char) : Bool := c.isAlphanum || c == '_' || c == '-'

def readName (cs : List Char) : Option (String × List Char) :=
  let name := cs.takeWhile isNameChar
  if name.isEmpty then none else some (String.ofList name, cs.dropWhile isNameChar)

def hexChar? (ds : List Char) : Option Char := do
  let values ← ds.mapM Numeral.hexValue?
  let n := values.foldl (fun n d => 16 * n + d) 0
  if n.isValidChar then some (Char.ofNat n) else none

/-- The character that a letter stands for behind a backslash. -/
def escaped? (c : Char) : Option Char :=
  if c = '\x22' ∨ c = '\\' then some c
  else if c = 'b' then some '\x08'
  else if c = 'e' then some '\x1b'
  else if c = 'f' then some '\x0c'
  else if c = 'n' then some '\n'
  else if c = 'r' then some '\r'
  else if c = 't' then some '\t'
  else none

def readString : List Char → Option (List Char × List Char)
  | [] => none
  | '\x22' :: r => some ([], r)
  | '\\' :: 'x' :: a :: b :: r => do
      let x ← hexChar? [a, b]
      let (s, rest) ← readString r
      some (x :: s, rest)
  | '\\' :: 'u' :: a :: b :: c :: d :: r => do
      let x ← hexChar? [a, b, c, d]
      let (s, rest) ← readString r
      some (x :: s, rest)
  | '\\' :: 'U' :: a :: b :: c :: d :: e :: f :: g :: h :: r => do
      let x ← hexChar? [a, b, c, d, e, f, g, h]
      let (s, rest) ← readString r
      some (x :: s, rest)
  | '\\' :: c :: r => do
      let x ← escaped? c
      let (s, rest) ← readString r
      some (x :: s, rest)
  | c :: r => do
      if !isShown c then none
      let (s, rest) ← readString r
      some (c :: s, rest)

/-- Whether digits are grouped well: each underscore stands between two digits. -/
def groupsWell (isDigit : Char → Bool) : List Char → Bool
  | [] => false
  | [c] => isDigit c
  | c :: '_' :: r => isDigit c && groupsWell isDigit r
  | c :: r => isDigit c && groupsWell isDigit r

def groupedNumber? (base : Nat) (cs : List Char) : Option Nat :=
  let isDigit (c : Char) := (Numeral.hexValue? c).any (· < base)
  if groupsWell isDigit cs then
    some ((cs.filterMap Numeral.hexValue?).foldl (fun n d => base * n + d) 0)
  else none

/-- The size of an integer without a base, which does not begin with a zero. -/
def decimalNumber? (cs : List Char) : Option Nat :=
  if cs.head? = some '0' ∧ cs ≠ ['0'] then none else groupedNumber? 10 cs

/-- The integer that a text stands for, which has to fit 64 bits. -/
def integer? (cs : List Char) : Option Int :=
  let i := match cs with
    | '0' :: 'x' :: r => (groupedNumber? 16 r).map fun n => (n : Int)
    | '0' :: 'o' :: r => (groupedNumber? 8 r).map fun n => (n : Int)
    | '0' :: 'b' :: r => (groupedNumber? 2 r).map fun n => (n : Int)
    | '-' :: r => (decimalNumber? r).map fun n => -(n : Int)
    | '+' :: r => (decimalNumber? r).map fun n => (n : Int)
    | r => (decimalNumber? r).map fun n => (n : Int)
  i.filter Numeral.fitsInteger

def readValue : List Char → Option (Setting × List Char)
  | '\x22' :: r => (readString r).map fun p => (text (String.ofList p.1), p.2)
  | cs =>
      let isWordChar (c : Char) := isNameChar c || c == '+'
      let word := cs.takeWhile isWordChar
      let rest := cs.dropWhile isWordChar
      if word = "true".toList then some (bool true, rest)
      else if word = "false".toList then some (bool false, rest)
      else (integer? word).map fun i => (int i, rest)

/-- Gives a path in a table a value, if it has none. -/
def define? (value : Setting) : List String → Table → Option Table
  | [], _ => none
  | [name], t => if (Text.lookup name t).isSome then none else some (t ++ [(name, value)])
  | name :: n :: ns, t =>
      match Text.lookup name t with
      | none => (define? value (n :: ns) []).map fun inner => t ++ [(name, table inner)]
      | some (table members) =>
          (define? value (n :: ns) members).map fun inner => put name (table inner) t
      | some _ => none

def at? : List String → Table → Option Setting
  | [], t => some (table t)
  | name :: ns, t =>
      match Text.lookup name t with
      | some (table members) => at? ns members
      | some s => if ns = [] then some s else none
      | none => none

/-- A document that is being read: what has been read, the path of the open table, and the paths of
all tables that have been opened. -/
structure Draft where
  table : Table
  path : List String
  opened : List (List String)

namespace Draft

def start : Draft := ⟨[], [], []⟩

/-- Opens a table, which must not have been opened before. -/
def openTable (d : Draft) (path : List String) : Option Draft :=
  if d.opened.contains path then none
  else
    match at? path d.table with
    | none => (define? (.table []) path d.table).map fun t => ⟨t, path, path :: d.opened⟩
    | some (.table _) => some ⟨d.table, path, path :: d.opened⟩
    | some _ => none

/-- Reads the rest of a path up to the bracket that closes it; `fuel` bounds its length. -/
def readPath : Nat → List Char → Option (List String × List Char)
  | 0, _ => none
  | fuel + 1, cs => do
      let (name, rest) ← readName (skipSpaces cs)
      match skipSpaces rest with
      | ']' :: r => some ([name], r)
      | '.' :: r => do
          let (names, rest) ← readPath fuel r
          some (name :: names, rest)
      | _ => none

def readLine (d : Draft) (line : List Char) : Option Draft :=
  match skipSpaces line with
  | '[' :: r => do
      let (path, rest) ← readPath r.length r
      if isOver rest then d.openTable path else none
  | cs =>
      if isOver cs then some d
      else do
        let (name, rest) ← readName cs
        match skipSpaces rest with
        | '=' :: r => do
            let (value, rest) ← readValue (skipSpaces r)
            let t ← define? value (d.path ++ [name]) d.table
            if isOver rest then some { d with table := t } else none
        | _ => none

def readLines (d : Draft) : List (List Char) → Option Draft
  | [] => some d
  | l :: ls => (d.readLine l).bind fun d => d.readLines ls

end Draft

/-- Drops the carriage return at the end of a line. -/
def withoutReturn (line : List Char) : List Char :=
  if line.getLast? = some '\r' then line.dropLast else line

/-- Drops the carriage returns in front of line ends; behind the last line there is no end. -/
def endLines : List (List Char) → List (List Char)
  | [] => []
  | [l] => [l]
  | l :: m :: ls => withoutReturn l :: endLines (m :: ls)

/-- Drops the mark of the order of bytes that a document may begin with. -/
def withoutMark : List Char → List Char
  | '\ufeff' :: cs => cs
  | cs => cs

def readDocument? (text : String) : Option Table :=
  (Draft.start.readLines (endLines (Text.split '\n' (withoutMark text.toList)))).map (·.table)

end RuleMatching.Setting
