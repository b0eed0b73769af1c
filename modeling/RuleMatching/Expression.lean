import RuleMatching.BoolOperator
import RuleMatching.Text.Numeral

/-!
Expressions combine clauses, named by labels.  Operators have no precedence: operands on one level
are combined from left to right, so a chain of them is a tree that grows to the left.
-/

set_option autoImplicit false
set_option relaxedAutoImplicit false

namespace RuleMatching

/-- An expression.  A chain `a OP b OP c` is the join of the chain `a OP b` with `c`. -/
inductive Expression where
  | operand (label : String)
  | negation (inner : Expression)
  | group (inner : Expression)
  | join (left : Expression) (operator : BoolOperator) (right : Expression)
  deriving DecidableEq, Repr

namespace Expression

/-- The labels of the operands from left to right. -/
def operands : Expression → List String
  | operand l => [l]
  | negation e => e.operands
  | group e => e.operands
  | join l _ r => l.operands ++ r.operands

/-- The greatest number of groups and negations on a path down the tree. -/
def nesting : Expression → Nat
  | operand _ => 0
  | negation e => e.nesting + 1
  | group e => e.nesting + 1
  | join l _ r => max l.nesting r.nesting

def maxNesting : Nat := 128

/-- Why a text is no expression. -/
inductive Flaw where
  | empty
  | expectedOperand (found : String)
  | expectedOperator (found : String)
  | notAsOperator
  | unbalancedClose
  | unclosed
  | malformedToken (token : String)
  | emptyOperand (token : String)
  | tooDeep (limit : Nat)
  deriving DecidableEq, Repr

/-- How the end of the text is shown in a message. -/
def endOfText : String := "<结尾>"

def Flaw.message : Flaw → String
  | empty => "表达式为空"
  | expectedOperand found => "期望操作数，实际为 '" ++ found ++ "'"
  | expectedOperator found => "期望布尔操作符，实际为 '" ++ found ++ "'"
  | notAsOperator => "NOT 只能作为操作数前缀，不能作为二元操作符"
  | unbalancedClose => "多余的右括号"
  | unclosed => "存在未闭合的左括号"
  | malformedToken token => "词元 '" ++ token ++ "' 的括号位置非法"
  | emptyOperand token => "词元 '" ++ token ++ "' 的括号内没有操作数"
  | tooDeep limit => "括号与 NOT 的嵌套超过 " ++ Numeral.text limit ++ " 层"

end Expression

end RuleMatching
