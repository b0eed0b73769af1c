import RuleMatching.Json.Number

/-!
The tokens of a JSON text: punctuation, and the values that have no parts.
-/

set_option autoImplicit false
set_option relaxedAutoImplicit false

namespace RuleMatching.Json

/-- A token. -/
inductive Token where
  | openArray
  | closeArray
  | openObject
  | closeObject
  | comma
  | colon
  | value (j : Json)

def hexUnit? (a b c d : Char) : Option Nat := do
  let a ← Numeral.hexValue? a
  let b ← Numeral.hexValue? b
  let c ← Numeral.hexValue? c
  let d ← Numeral.hexValue? d
  some (((a * 16 + b) * 16 + c) * 16 + d)

/-- The character that a letter stands for behind a backslash. -/
def escaped? (c : Char) : Option Char :=
  if c = '\x22' ∨ c = '\\' ∨ c = '/' then some c
  else if c = 'b' then some '\x08'
  else if c = 'f' then some '\x0c'
  else if c = 'n' then some '\n'
  else if c = 'r' then some '\r'
  else if c = 't' then some '\t'
  else none

/-- Reads a string behind its opening quotation mark.  `high` is the first half of a pair of units
whose second half must follow. -/
def readString (high : Option Nat) : List Char → Option (List Char × List Char)
  | [] => none
  | '\\' :: 'u' :: a :: b :: c :: d :: cs => do
      let n ← hexUnit? a b c d
      match high with
      | some h =>
          if 0xDC00 ≤ n ∧ n ≤ 0xDFFF then do
            let (s, rest) ← readString none cs
            some (Char.ofNat (0x10000 + (h - 0xD800) * 0x400 + (n - 0xDC00)) :: s, rest)
          else none
      | none =>
          if 0xD800 ≤ n ∧ n ≤ 0xDBFF then readString (some n) cs
          else if 0xDC00 ≤ n ∧ n ≤ 0xDFFF then none
          else do
            let (s, rest) ← readString none cs
            some (Char.ofNat n :: s, rest)
  | '\\' :: c :: cs => do
      let e ← escaped? c
      if high.isSome then none
      else
        let (s, rest) ← readString none cs
        some (e :: s, rest)
  | c :: cs =>
      if high.isSome ∨ c = '\\' ∨ c.toNat < 0x20 then none
      else if c = '\x22' then some ([], cs)
      else do
        let (s, rest) ← readString none cs
        some (c :: s, rest)

def isSpace (c : Char) : Bool := c == ' ' || c == '\n' || c == '\t' || c == '\r'

/-- Reads the token at the front of a text that does not begin with a space. -/
def readToken (cs : List Char) : Option (Token × List Char) :=
  match cs with
  | '[' :: r => some (.openArray, r)
  | ']' :: r => some (.closeArray, r)
  | '\x7b' :: r => some (.openObject, r)
  | '\x7d' :: r => some (.closeObject, r)
  | ',' :: r => some (.comma, r)
  | ':' :: r => some (.colon, r)
  | '\x22' :: r => (readString none r).map fun p => (.value (string (String.ofList p.1)), p.2)
  | 'n' :: 'u' :: 'l' :: 'l' :: r => some (.value null, r)
  | 't' :: 'r' :: 'u' :: 'e' :: r => some (.value (bool true), r)
  | 'f' :: 'a' :: 'l' :: 's' :: 'e' :: r => some (.value (bool false), r)
  | _ => (readNumber cs).map fun p => (.value p.1, p.2)

/-- The tokens of a text; `fuel` bounds their number. -/
def readTokens : Nat → List Char → Option (List Token)
  | 0, _ => none
  | fuel + 1, cs =>
      match cs.dropWhile isSpace with
      | [] => some []
      | c :: r => do
          let (t, rest) ← readToken (c :: r)
          let ts ← readTokens fuel rest
          some (t :: ts)

def tokens? (cs : List Char) : Option (List Token) := readTokens (cs.length + 1) cs

end RuleMatching.Json
