import RuleMatching.Expression
import RuleMatching.Text.Blank

/-!
Tokens and lexemes of expressions.  A text falls into tokens at blanks.  A token is a core with
opening parentheses in front and closing ones behind it, and stands for those parentheses and the
core as a word, one after the other.
-/

set_option autoImplicit false
set_option relaxedAutoImplicit false

namespace RuleMatching.Expression

/-- A unit of the grammar. -/
inductive Lexeme where
  | opening
  | closing
  | word (w : String)
  deriving DecidableEq, Repr

/-- A lexeme as it is shown in a message. -/
def Lexeme.text : Lexeme → String
  | opening => "("
  | closing => ")"
  | word w => w

/-- A token: how many parentheses open in front of its core and close behind it. -/
structure Token where
  text : String
  opens : Nat
  core : String
  closes : Nat
  deriving DecidableEq, Repr

namespace Token

/-- Cuts off the parentheses at the ends of a text. -/
def ofText (text : String) : Token :=
  let rest := text.toList.dropWhile (· = '(')
  let core := (rest.reverse.dropWhile (· = ')')).reverse
  ⟨text, text.toList.length - rest.length, String.ofList core, rest.length - core.length⟩

def isParenthesis (c : Char) : Bool := c == '(' || c == ')'

/-- The lexemes of a token.  The core must be free of parentheses, and must not be empty between
parentheses. -/
def lexemes (t : Token) : Except Flaw (List Lexeme) :=
  if t.core.toList.any isParenthesis then .error (.malformedToken t.text)
  else if t.core = "" ∧ 0 < t.opens ∧ 0 < t.closes then .error (.emptyOperand t.text)
  else .ok (List.replicate t.opens .opening ++ (if t.core = "" then [] else [.word t.core]) ++
    List.replicate t.closes .closing)

end Token

def tokens (text : String) : List Token :=
  (Text.words text.toList).map fun w => Token.ofText (String.ofList w)

/-- The lexemes of tokens, up to the first token that has none. -/
def lexemesOf : List Token → Except Flaw (List Lexeme)
  | [] => .ok []
  | t :: ts =>
      match t.lexemes with
      | .error e => .error e
      | .ok ls =>
          match lexemesOf ts with
          | .error e => .error e
          | .ok rest => .ok (ls ++ rest)

end RuleMatching.Expression
