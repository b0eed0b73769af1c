import RuleMatching.Expression
import RuleMatching.Rule
import RuleMatching.Text.Quoted

/-!
Issues: what can be wrong with the definition of a rule, and how it is said.
-/

set_option autoImplicit false
set_option relaxedAutoImplicit false

namespace RuleMatching

/-- What is wrong.  `clause` is how a clause is called. -/
inductive IssueKind where
  | noData (clause : String)
  | dictDataUnexpected (clause : String) (operation : Operation)
  | noDataOrDictData (clause : String)
  | expectedInt (clause : String) (found : List String)
  | expectedDateTime (clause : String) (found : List String)
  | invalidRegex (clause pattern : String)
  | redundantData (clause : String) (operation : Operation)
  | redundantDictData (clause : String) (operation : Operation)
  | unsupportedOperation (clause : String) (operation : Operation) (custom : Option String)
  | duplicateLabel (label : String)
  | invalidLabel (label : String)
  | unusedLabel (label : String)
  | missingLabels
  | expressionButMissingLabels
  | unbalancedParentheses (expression : String)
  | unclosedParentheses (expression : String)
  | charactersBeforeOpenParenthesis (expression token : String)
  | charactersAfterClosedParenthesis (expression token : String)
  | parenthesisInLabel (expression token : String)
  | closeParenthesisInNot (expression token : String)
  | undefinedLabel (expression label : String)
  | invalidOperator (expression token : String)
  | invalidNotOperator (expression : String)
  | endsWithOperator (expression : String)
  | malformedExpression (expression : String) (flaw : Expression.Flaw)
  | custom (clause message : String)
  deriving DecidableEq, Repr

/-- An issue of the rule with a name, and the clauses that it is about. -/
structure Issue where
  rule : String
  kind : IssueKind
  clauses : List ClauseAt
  deriving DecidableEq, Repr

namespace Issue

/-- The beginning of what is said about a rule. -/
def ofRule (rule : String) : String := "规则 " ++ rule

/-- The beginning of what is said about a clause. -/
def ofClause (rule clause : String) : String := ofRule rule ++ " 的子句 " ++ clause

/-- The beginning of what is said about a clause with an operation. -/
def ofOperation (rule clause : String) (operation : Operation) : String :=
  ofClause rule clause ++ " 使用 " ++ operation.name ++ " 操作"

/-- The beginning of what is said about an expression. -/
def ofExpression (rule expression : String) : String :=
  ofRule rule ++ " 的表达式 '" ++ expression ++ "'"

/-- The beginning of what is said about a token. -/
def ofToken (rule expression token : String) : String :=
  ofExpression rule expression ++ " 中词元 '" ++ token ++ "'"

def describe (rule : String) : IssueKind → String
  | .noData clause => ofClause rule clause ++ " 缺少 data"
  | .dictDataUnexpected clause operation =>
      ofOperation rule clause operation ++ "，不应设置 dict_data"
  | .noDataOrDictData clause => ofClause rule clause ++ " 必须设置 data 或 dict_data 之一"
  | .expectedInt clause found =>
      ofClause rule clause ++ " 需要恰好一个整数 data，实际为 " ++ Quoted.list found
  | .expectedDateTime clause found =>
      ofClause rule clause ++ " 需要恰好一个可解析的时间戳 data，实际为 " ++ Quoted.list found
  | .invalidRegex clause pattern =>
      ofClause rule clause ++ " 包含无效的正则表达式 '" ++ pattern ++ "'"
  | .redundantData clause operation => ofOperation rule clause operation ++ "，不需要 data"
  | .redundantDictData clause operation =>
      ofOperation rule clause operation ++ "，不需要 dict_data"
  | .unsupportedOperation clause operation custom =>
      ofClause rule clause ++ " 使用了不受支持的操作 " ++ operation.name ++ "（自定义操作: " ++
        Quoted.option custom ++ "）"
  | .duplicateLabel label => ofRule rule ++ " 中存在重复的子句标签 '" ++ label ++ "'"
  | .invalidLabel label => ofRule rule ++ " 的子句标签 '" ++ label ++ "' 含有非法字符（空格或括号）"
  | .unusedLabel label => ofRule rule ++ " 的子句标签 '" ++ label ++ "' 未在表达式中使用"
  | .missingLabels => ofRule rule ++ " 中部分子句有标签、部分没有，标签必须全部设置或全部省略"
  | .expressionButMissingLabels => ofRule rule ++ " 设置了表达式，但存在没有标签的子句"
  | .unbalancedParentheses expression => ofExpression rule expression ++ " 中右括号多于左括号"
  | .unclosedParentheses expression => ofExpression rule expression ++ " 存在未闭合的左括号"
  | .charactersBeforeOpenParenthesis expression token =>
      ofToken rule expression token ++ " 的左括号前有其他字符"
  | .charactersAfterClosedParenthesis expression token =>
      ofToken rule expression token ++ " 的右括号后有其他字符"
  | .parenthesisInLabel expression token => ofToken rule expression token ++ " 的标签内含有括号"
  | .closeParenthesisInNot expression token =>
      ofExpression rule expression ++ " 中 NOT 词元 '" ++ token ++ "' 不能带右括号"
  | .undefinedLabel expression label =>
      ofExpression rule expression ++ " 引用了未定义的标签 '" ++ label ++ "'"
  | .invalidOperator expression token =>
      ofExpression rule expression ++ " 中 '" ++ token ++ "' 不是有效的布尔操作符"
  | .invalidNotOperator expression =>
      ofExpression rule expression ++ " 中 NOT 不能作为二元操作符"
  | .endsWithOperator expression => ofExpression rule expression ++ " 必须以操作数结尾"
  | .malformedExpression expression flaw =>
      ofExpression rule expression ++ " 无法解析: " ++ flaw.message
  | .custom clause message => ofClause rule clause ++ ": " ++ message

def description (i : Issue) : String := describe i.rule i.kind

def whole (r : Rule) (kind : IssueKind) : Issue := ⟨r.name, kind, []⟩

def about (r : Rule) (c : ClauseAt) (kind : IssueKind) : Issue := ⟨r.name, kind, [c]⟩

end Issue

end RuleMatching
