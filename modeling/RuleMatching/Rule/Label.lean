import RuleMatching.Expression
import RuleMatching.Rule

/-!
Labels.  An operand of an expression names a clause by its label, or by its place in the rule if no
clause has that label.  A label that several clauses share names none of them.
-/

set_option autoImplicit false
set_option relaxedAutoImplicit false

namespace RuleMatching

/-- Why a rule cannot be evaluated. -/
inductive RuleError where
  | invalidExpression (expression : String) (flaw : Expression.Flaw)
  | unknownLabel (label : String)
  | ambiguousLabel (label : String)
  deriving DecidableEq, Repr

/-- The message about an error. -/
def RuleError.message : RuleError → String
  | invalidExpression expression flaw =>
      "表达式解析失败: '" ++ expression ++ "': " ++ flaw.message
  | unknownLabel label => "标签 '" ++ label ++ "' 未匹配任何子句，也不是有效的子句下标"
  | ambiguousLabel label => "标签 '" ++ label ++ "' 匹配了多个子句"

namespace Rule

/-- The clauses with a label. -/
def labelled (r : Rule) (label : String) : List ClauseAt :=
  r.clausesAt.filter fun c => c.clause.label == some label

/-- The clause at the place that a label is the number of. -/
def clauseAtIndex? (r : Rule) (label : String) : Option ClauseAt :=
  (Numeral.index? label).bind fun i => r.clausesAt[i]?

/-- The clause that a label names. -/
def resolve (r : Rule) (label : String) : Except RuleError ClauseAt :=
  match r.labelled label with
  | [] =>
      match r.clauseAtIndex? label with
      | some c => .ok c
      | none => .error (.unknownLabel label)
  | [c] => .ok c
  | _ :: _ :: _ => .error (.ambiguousLabel label)

/-- Whether an operand of an expression names a clause that captures. -/
def mayCaptureIn (r : Rule) (e : Expression) : Bool :=
  e.operands.any fun l =>
    match r.resolve l with
    | .ok c => c.clause.capture
    | .error _ => false

end Rule

end RuleMatching
