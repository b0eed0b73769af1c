/-!
The boolean operators of expressions.  `apply` is their truth table, and `decided?` says when the
left operand alone settles the result.
-/

set_option autoImplicit false
set_option relaxedAutoImplicit false

namespace RuleMatching

/-- A boolean operator.  NOT stands before its operand and never between two. -/
inductive BoolOperator where
  | and
  | or
  | xor
  | nand
  | nor
  | not
  deriving DecidableEq, Repr

namespace BoolOperator

def all : List BoolOperator := [and, or, xor, nand, nor, not]

def name : BoolOperator → String
  | and => "AND"
  | or => "OR"
  | xor => "XOR"
  | nand => "NAND"
  | nor => "NOR"
  | not => "NOT"

/-- The operator that a word stands for; only upper case counts. -/
def ofName? (s : String) : Option BoolOperator := all.find? fun o => o.name == s

/-- The result for two operands; NOT looks at the first alone. -/
def apply : BoolOperator → Bool → Bool → Bool
  | and, a, b => a && b
  | or, a, b => a || b
  | xor, a, b => a != b
  | nand, a, b => !(a && b)
  | nor, a, b => !(a || b)
  | not, a, _ => !a

def decided? : BoolOperator → Bool → Option Bool
  | and, false => some false
  | nor, true => some false
  | or, true => some true
  | nand, false => some true
  | _, _ => none

/-- The word for an operator stands for it. -/
theorem ofName?_name (o : BoolOperator) : ofName? o.name = some o := by
  cases o <;> decide

/-- A word stands for an operator only if it is the word for it. -/
theorem ofName?_eq_some_iff {s : String} {o : BoolOperator} : ofName? s = some o ↔ s = o.name := by
  constructor
  · intro h
    have hname : (o.name == s) = true :=
      List.find?_some (p := fun o : BoolOperator => o.name == s) h
    exact (eq_of_beq hname).symm
  · rintro rfl
    exact ofName?_name o

/-- What the left operand settles is the result for every right operand. -/
theorem apply_of_decided? {o : BoolOperator} {a v : Bool} (h : o.decided? a = some v) (b : Bool) :
    o.apply a b = v := by
  cases o <;> cases a <;> cases b <;> simp_all [decided?, apply]

end BoolOperator

/-- The message about a word that is no boolean operator. -/
def unknownOperatorMessage (word : String) : String := "未知的布尔操作符: '" ++ word ++ "'"

end RuleMatching
