import RuleMatching.Expression.Reader
import RuleMatching.Extension
import RuleMatching.Instant.Reading
import RuleMatching.Rule.Label
import RuleMatching.Judgement.BuiltIn

/-!
Checking the definition of a rule without evaluating it.  The labels are checked first, then each
clause, then the expression, token by token, and at last whether labels and expression fit together.
-/

set_option autoImplicit false
set_option relaxedAutoImplicit false

namespace RuleMatching.Lint

/-- The labels of a rule. -/
def labels (r : Rule) : NameSet := .ofList (r.clauses.filterMap (·.label))

/-- The labels that several clauses share. -/
def duplicateLabels (r : Rule) : List Issue :=
  (labels r).names.filterMap fun l =>
    let clauses := r.labelled l
    if 1 < clauses.length then some ⟨r.name, .duplicateLabel l, clauses⟩ else none

/-- Whether a character may not stand in a label. -/
def isForbidden (c : Char) : Bool := c == ' ' || c == '(' || c == ')'

/-- The clauses with a forbidden character in their labels. -/
def invalidLabels (r : Rule) : List Issue :=
  r.clausesAt.filterMap fun c =>
    match c.clause.label with
    | some l => if l.toList.any isForbidden then some (.about r c (.invalidLabel l)) else none
    | none => none

/-- An issue if something is the case. -/
def issueIf (condition : Bool) (kind : IssueKind) : List IssueKind :=
  if condition then [kind] else []

/-- The data of a clause that are no patterns.  The empty text does not count as one here; and if
each of the data is a pattern, all of them together have to be one as well. -/
def patternKinds (sizeLimit : Option Nat) (c : ClauseAt) : List IssueKind :=
  let data := c.clause.data
  let isBad (p : String) := p = "" || !Pattern.isValid sizeLimit p
  let joined := Judgement.patternText c.clause
  if data.any isBad then (data.filter isBad).map (.invalidRegex c.callName)
  else issueIf (1 < data.length && !Pattern.isValid sizeLimit joined)
    (.invalidRegex c.callName joined)

/-- What is wrong with the operand of a clause with a built-in operation. -/
def operandKinds (sizeLimit : Option Nat) (c : ClauseAt) : List IssueKind :=
  let name := c.callName
  let operation := c.clause.operation
  let data := c.clause.data
  let unexpectedDict := issueIf c.clause.operand.isDict (.dictDataUnexpected name operation)
  let needsData := issueIf data.isEmpty (.noData name) ++ unexpectedDict
  let needsParts :=
    issueIf (data.isEmpty && c.clause.dictData.isEmpty) (.noDataOrDictData name)
  let needsInteger :=
    issueIf (!(data.length == 1 && data.all fun d => (Judgement.integer? d).isSome))
      (.expectedInt name data) ++ unexpectedDict
  let needsInstant :=
    issueIf (!(data.length == 1 && data.all fun d => (Instant.read? d).isSome))
      (.expectedDateTime name data) ++ unexpectedDict
  let needsNothing := match c.clause.operand with
    | .list _ => [.redundantData name operation]
    | .dict _ => [.redundantDictData name operation]
    | .none => []
  match operation with
  | .equals | .startsWith | .endsWith | .containsKey => needsData
  | .regex => needsData ++ patternKinds sizeLimit c
  | .contains | .containsAny => needsParts
  | .lessThan | .greaterThan => needsInteger
  | .isBefore | .isAfter => needsInstant
  | .isNull | .isTrue | .isExpired | .wasModified => needsNothing
  | .custom => []

/-- The issues of a clause.  A custom operation checks the clauses that it claims. -/
def clauseIssues (operations : List CustomOperation) (sizeLimit : Option Nat) (r : Rule)
    (c : ClauseAt) : Outcome (List Issue) :=
  if c.clause.operation = .custom then
    (claimant c.clause operations).andThen fun
      | some o => o.issues r c
      | none => .value [.about r c
          (.unsupportedOperation c.callName c.clause.operation c.clause.customOperation)]
  else .value ((operandKinds sizeLimit c).map (.about r c))

/-- A token without its parentheses. -/
def bareText (token : String) : String :=
  String.ofList (token.toList.filter fun c => !Expression.Token.isParenthesis c)

/-- What is wrong with parentheses inside the core of a token in the place of an operand. -/
def shapeKinds (expression : String) (t : Expression.Token) : List IssueKind :=
  match t.core.toList.filter Expression.Token.isParenthesis with
  | [] => []
  | '(' :: _ => [.charactersBeforeOpenParenthesis expression t.text]
  | ps =>
      if ps.contains '(' then [.parenthesisInLabel expression t.text]
      else [.charactersAfterClosedParenthesis expression t.text]

/-- Whether a label names some clause: as its label, or as its place. -/
def namesClause (r : Rule) (label : String) : Bool :=
  !(Text.trim label.toList).isEmpty &&
    (r.clauses.any (fun c => c.label == some label) || (r.clauseAtIndex? label).isSome)

/-- What is wrong with a token in the place of an operand, and whether an operator follows. -/
def operandToken (r : Rule) (expression : String) (t : Expression.Token) :
    List IssueKind × Bool :=
  let shape := shapeKinds expression t
  let label := bareText t.text
  if label = "" ∧ ¬(0 < t.opens ∧ 0 < t.closes) then (shape, false)
  else if label = BoolOperator.not.name then
    (shape ++ issueIf (t.text.toList.contains ')') (.closeParenthesisInNot expression t.text),
      false)
  else (shape ++ issueIf (!namesClause r label) (.undefinedLabel expression label), true)

/-- What is wrong with a token in the place of an operator, and whether an operator still
follows. -/
def operatorToken (expression : String) (t : Expression.Token) : List IssueKind × Bool :=
  if t.core = "" ∧ t.opens = 0 then ([], true)
  else
    match BoolOperator.ofName? t.text with
    | some .not => ([.invalidNotOperator expression], false)
    | some _ => ([], false)
    | none => ([.invalidOperator expression t.text], false)

/-- How far the check of an expression has come: the parentheses that are open, whether too many
were closed, and whether an operator follows. -/
structure Walk where
  depth : Int
  overclosed : Bool
  wantsOperator : Bool
  deriving DecidableEq, Repr

namespace Walk

/-- The check before the first token. -/
def start : Walk := ⟨0, false, false⟩

/-- By how many more parentheses a token opens than it closes. -/
def balance (t : Expression.Token) : Int :=
  (t.text.toList.count '(' : Int) - (t.text.toList.count ')' : Int)

/-- Checks one token. -/
def step (r : Rule) (expression : String) (w : Walk) (t : Expression.Token) :
    List IssueKind × Walk :=
  let (kinds, wantsOperator) :=
    if w.wantsOperator then operatorToken expression t else operandToken r expression t
  let depth := w.depth + balance t
  let overclosed := depth < 0 && !w.overclosed
  (kinds ++ issueIf overclosed (.unbalancedParentheses expression),
    ⟨depth, w.overclosed || overclosed, wantsOperator⟩)

/-- What is wrong if an expression ends here. -/
def finish (expression : String) (w : Walk) : List IssueKind :=
  issueIf (!w.wantsOperator) (.endsWithOperator expression) ++
    issueIf (0 < w.depth) (.unclosedParentheses expression)

/-- Checks tokens to the end of an expression. -/
def run (r : Rule) (expression : String) (w : Walk) : List Expression.Token → List IssueKind
  | [] => w.finish expression
  | t :: ts =>
      let (kinds, w) := w.step r expression t
      kinds ++ w.run r expression ts

end Walk

/-- What is wrong with an expression.  If no token shows anything, it may still be unreadable. -/
def expressionKinds (r : Rule) (expression : String) : List IssueKind :=
  match Walk.start.run r expression (Expression.tokens expression) with
  | [] =>
      match Expression.read expression with
      | .error flaw => [.malformedExpression expression flaw]
      | .ok _ => []
  | kinds => kinds

/-- The clauses whose labels the expression does not mention. -/
def unusedLabels (r : Rule) (expression : String) : List Issue :=
  let mentioned := (Expression.tokens expression).map fun t => bareText t.text
  r.clausesAt.filterMap fun c =>
    match c.clause.label with
    | some l => if mentioned.contains l then none else some (.about r c (.unusedLabel l))
    | none => none

/-- Whether some clause has no label. -/
def lacksLabels (r : Rule) : Bool := r.clauses.any (·.label.isNone)

/-- Whether some clause has a label. -/
def hasLabels (r : Rule) : Bool := r.clauses.any (·.label.isSome)

/-- The issues of labels and expression together. -/
def coverageIssues (r : Rule) : List Issue :=
  (match r.expression with
    | some e => unusedLabels r e ++
        (issueIf (lacksLabels r) .expressionButMissingLabels).map (.whole r)
    | none => []) ++
  (issueIf (hasLabels r && lacksLabels r) .missingLabels).map (.whole r)

/-- The issues of the expression of a rule, if it has one. -/
def expressionIssues (r : Rule) : List Issue :=
  match r.expression with
  | some e => (expressionKinds r e).map (.whole r)
  | none => []

/-- The issues of a rule. -/
def issues (operations : List CustomOperation) (sizeLimit : Option Nat) (r : Rule) :
    Outcome (List Issue) :=
  (Outcome.forEach (clauseIssues operations sizeLimit r) r.clausesAt).andThen fun ofClauses =>
    .value (duplicateLabels r ++ invalidLabels r ++ ofClauses.flatten ++ expressionIssues r ++
      coverageIssues r)

end RuleMatching.Lint
