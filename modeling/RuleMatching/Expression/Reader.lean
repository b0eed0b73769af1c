import RuleMatching.Expression.Token

/-!
Reading an expression, lexeme by lexeme from left to right.  The reader waits for an operand or for
an operator, and keeps a stack of what is still open: negations and groups that wait for their
inside, and chains that wait for their next operand.  What has gone wrong is known at the first
lexeme that does not fit.
-/

set_option autoImplicit false
set_option relaxedAutoImplicit false

namespace RuleMatching.Expression

/-- Something that waits for the operand being read. -/
inductive Frame where
  | negation
  | group
  | join (left : Expression) (operator : BoolOperator)
  deriving DecidableEq, Repr

def Frame.nests : Frame → Bool
  | join _ _ => false
  | _ => true

/-- The number of groups and negations that are open. -/
def openNesting (stack : List Frame) : Nat := stack.countP Frame.nests

/-- What a reader has read and waits for. -/
inductive Reader where
  | wantsOperand (stack : List Frame)
  | wantsOperator (level : Expression) (stack : List Frame)
  deriving DecidableEq, Repr

namespace Reader

def start : Reader := wantsOperand []

/-- Goes on with a finished operand: negations around it are closed, and the chain before it, if
there is one, takes it in. -/
def settle (operand : Expression) : List Frame → Reader
  | .negation :: stack => settle (negation operand) stack
  | .join left operator :: stack => wantsOperator (join left operator operand) stack
  | stack => wantsOperator operand stack

/-- Opens a group or a negation, if nesting allows it. -/
def enter (frame : Frame) (stack : List Frame) : Except Flaw Reader :=
  if maxNesting ≤ openNesting stack then .error (.tooDeep maxNesting)
  else .ok (wantsOperand (frame :: stack))

def step : Reader → Lexeme → Except Flaw Reader
  | wantsOperand stack, .opening => enter .group stack
  | wantsOperand _, .closing => .error (.expectedOperand ")")
  | wantsOperand stack, .word w =>
      match BoolOperator.ofName? w with
      | some .not => enter .negation stack
      | some _ => .error (.expectedOperand w)
      | none => .ok (settle (operand w) stack)
  | wantsOperator _ _, .opening => .error (.expectedOperator "(")
  | wantsOperator level (.group :: stack), .closing => .ok (settle (group level) stack)
  | wantsOperator _ _, .closing => .error .unbalancedClose
  | wantsOperator level stack, .word w =>
      match BoolOperator.ofName? w with
      | some .not => .error .notAsOperator
      | some operator => .ok (wantsOperand (.join level operator :: stack))
      | none => .error (.expectedOperator w)

def run (r : Reader) : List Lexeme → Except Flaw Reader
  | [] => .ok r
  | l :: ls =>
      match r.step l with
      | .error e => .error e
      | .ok r => r.run ls

def finish : Reader → Except Flaw Expression
  | wantsOperand _ => .error (.expectedOperand endOfText)
  | wantsOperator level [] => .ok level
  | wantsOperator _ (_ :: _) => .error .unclosed

end Reader

def ofLexemes (ls : List Lexeme) : Except Flaw Expression :=
  if ls = [] then .error .empty
  else
    match Reader.start.run ls with
    | .error e => .error e
    | .ok r => r.finish

def read (text : String) : Except Flaw Expression :=
  match lexemesOf (tokens text) with
  | .error e => .error e
  | .ok ls => ofLexemes ls

end RuleMatching.Expression
