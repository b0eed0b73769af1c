import RuleMatching.Lint
import RuleMatching.Proofs.Expression.OpenGroups
import RuleMatching.Proofs.Expression.Reading

/-!
The check of an expression token by token, against the reader.  As long as the reader accepts the
lexemes of a token, the check and the reader go in step: they agree on how many groups are open and
on what they wait for, and the check reports just the operands that name no clause, `inStep_step`.
So for an expression that can be read these are all that the check reports: `run_of_read`.
-/

set_option autoImplicit false
set_option relaxedAutoImplicit false

namespace RuleMatching.Expression

@[simp] theorem labelsOf_wrappedLexemes (opens : Nat) (core : List Char) (closes : Nat) :
    labelsOf (wrappedLexemes opens core closes) = labelsOf (coreLexemes core) := by
  have hopening : labelsOf (List.replicate opens .opening) = [] := by
    induction opens with
    | zero => rfl
    | succ n ih => rw [List.replicate_succ, labelsOf_opening, ih]
  have hclosing : labelsOf (List.replicate closes .closing) = [] := by
    induction closes with
    | zero => rfl
    | succ n ih => rw [List.replicate_succ, labelsOf_closing, ih]
  simp [wrappedLexemes, hopening, hclosing]

theorem Reader.openGroups_run_coreLexemes {r r' : Reader} {core : List Char}
    (h : r.run (coreLexemes core) = .ok r') : openGroups r'.stack = openGroups r.stack := by
  cases core with
  | nil =>
    obtain rfl := Except.ok.inj h
    rfl
  | cons c cs =>
    rw [coreLexemes, run_singleton] at h
    exact (step_word_cases h).1

end RuleMatching.Expression

namespace RuleMatching.Lint

open RuleMatching.Expression (wrapped coreLexemes wrappedLexemes labelsOf openGroups)

private theorem isParenthesis_eq_false {core : List Char} (hcore : ∀ c ∈ core, c ≠ '(' ∧ c ≠ ')') :
    ∀ c ∈ core, Expression.Token.isParenthesis c = false := by
  intro c hc
  simp [Expression.Token.isParenthesis, hcore c hc]

theorem bareText_wrapped {core : List Char} (hcore : ∀ c ∈ core, c ≠ '(' ∧ c ≠ ')')
    (opens closes : Nat) :
    bareText (String.ofList (wrapped opens core closes)) = String.ofList core := by
  have hfilter : core.filter (fun c => !Expression.Token.isParenthesis c) = core := by
    rw [List.filter_eq_self]
    intro c hc
    simp [isParenthesis_eq_false hcore c hc]
  simp only [bareText, wrapped, String.toList_ofList, List.filter_append, hfilter]
  simp [Expression.Token.isParenthesis]

theorem shapeKinds_of_free {core : List Char} (hcore : ∀ c ∈ core, c ≠ '(' ∧ c ≠ ')')
    (expression text : String) (opens closes : Nat) :
    shapeKinds expression ⟨text, opens, String.ofList core, closes⟩ = [] := by
  have hfilter : core.filter Expression.Token.isParenthesis = [] := by
    rw [List.filter_eq_nil_iff]
    intro c hc
    simp [isParenthesis_eq_false hcore c hc]
  simp [shapeKinds, hfilter]

theorem contains_close_wrapped {core : List Char} (hcore : ∀ c ∈ core, c ≠ '(' ∧ c ≠ ')')
    (opens : Nat) : (wrapped opens core 0).contains ')' = false := by
  have hmem : ')' ∉ core := fun h => (hcore _ h).2 rfl
  simp [wrapped, hmem]

theorem balance_wrapped {core : List Char} (hcore : ∀ c ∈ core, c ≠ '(' ∧ c ≠ ')')
    (opens closes : Nat) :
    Walk.balance (Expression.Token.ofText (String.ofList (wrapped opens core closes))) =
      (opens : Int) - closes := by
  have hopen : core.count '(' = 0 := List.count_eq_zero.mpr fun h => (hcore _ h).1 rfl
  have hclose : core.count ')' = 0 := List.count_eq_zero.mpr fun h => (hcore _ h).2 rfl
  rw [Expression.Token.ofText_wrapped hcore]
  simp [Walk.balance, wrapped, List.count_append, List.count_replicate, hopen, hclose]

/-- What is reported of labels that name no clause. -/
def undefinedLabels (r : Rule) (expression : String) (labels : List String) : List IssueKind :=
  (labels.filter fun l => !namesClause r l).map (.undefinedLabel expression)

theorem undefinedLabels_append (r : Rule) (expression : String) (ls ms : List String) :
    undefinedLabels r expression (ls ++ ms) =
      undefinedLabels r expression ls ++ undefinedLabels r expression ms := by
  simp [undefinedLabels]

theorem undefinedLabels_singleton (r : Rule) (expression l : String) :
    undefinedLabels r expression [l] =
      issueIf (!namesClause r l) (.undefinedLabel expression l) := by
  cases h : namesClause r l <;> simp [undefinedLabels, issueIf, h]

namespace Walk

/-- The check and the reader go in step: the same groups are open, never too many were closed, and
both wait for the same. -/
def InStep (w : Walk) (r : Expression.Reader) : Prop :=
  w.depth = openGroups r.stack ∧ w.overclosed = false ∧ w.wantsOperator = r.isAfterOperand

/-- What the check says of a token before its parentheses are counted. -/
def judge (r : Rule) (expression : String) (w : Walk) (t : Expression.Token) :
    List IssueKind × Bool :=
  if w.wantsOperator then operatorToken expression t else operandToken r expression t

theorem step_of_nonneg (r : Rule) (expression : String) {w : Walk} {t : Expression.Token}
    (hover : w.overclosed = false) (hdepth : 0 ≤ w.depth + balance t) :
    w.step r expression t =
      ((w.judge r expression t).1, ⟨w.depth + balance t, false, (w.judge r expression t).2⟩) := by
  have hclosed : decide (w.depth + balance t < 0) = false := by
    simpa using hdepth
  simp only [step, judge, hover, hclosed, issueIf, Bool.false_and, Bool.or_self, List.append_nil,
    Bool.false_eq_true, if_false]

/-- In the place of an operand, a label is reported if it names no clause, and an operator follows;
parentheses alone and NOT leave everything open. -/
theorem judge_operand {r : Rule} {expression : String} {w : Walk}
    (hwants : w.wantsOperator = false) {opens : Nat} {core : List Char}
    (hcore : ∀ c ∈ core, c ≠ '(' ∧ c ≠ ')') {closes : Nat} :
    w.judge r expression (Expression.Token.ofText (String.ofList (wrapped opens core closes))) =
      if core = [] ∧ ¬(0 < opens ∧ 0 < closes) then ([], false)
      else if String.ofList core = BoolOperator.not.name then
        (issueIf ((wrapped opens core closes).contains ')')
          (.closeParenthesisInNot expression (String.ofList (wrapped opens core closes))), false)
      else (issueIf (!namesClause r (String.ofList core))
        (.undefinedLabel expression (String.ofList core)), true) := by
  have hnil : String.ofList core = "" ↔ core = [] := by
    rw [← String.toList_eq_nil_iff, String.toList_ofList]
  rw [judge, hwants, Expression.Token.ofText_wrapped hcore]
  simp only [Bool.false_eq_true, if_false, operandToken, bareText_wrapped hcore,
    shapeKinds_of_free hcore, List.nil_append, String.toList_ofList, hnil]

/-- In the place of an operator, closing parentheses alone leave everything open, and any operator
but NOT is accepted. -/
theorem judge_operator {r : Rule} {expression : String} {w : Walk}
    (hwants : w.wantsOperator = true) {opens : Nat} {core : List Char}
    (hcore : ∀ c ∈ core, c ≠ '(' ∧ c ≠ ')') {closes : Nat} :
    w.judge r expression (Expression.Token.ofText (String.ofList (wrapped opens core closes))) =
      if core = [] ∧ opens = 0 then ([], true)
      else
        match BoolOperator.ofName? (String.ofList (wrapped opens core closes)) with
        | some .not => ([.invalidNotOperator expression], false)
        | some _ => ([], false)
        | none =>
            ([.invalidOperator expression (String.ofList (wrapped opens core closes))], false) := by
  have hnil : String.ofList core = "" ↔ core = [] := by
    rw [← String.toList_eq_nil_iff, String.toList_ofList]
  rw [judge, hwants, Expression.Token.ofText_wrapped hcore, if_pos rfl, operatorToken]
  exact if_congr (and_congr hnil Iff.rfl) rfl rfl

/-- Where the reader accepts the core of a token, the check reports just the label in it, if that
names no clause, and then waits for what the reader waits for. -/
theorem judge_of_run (r : Rule) (expression : String) {w : Walk}
    {reader reader' : Expression.Reader} (hwants : w.wantsOperator = reader.isAfterOperand)
    {opens closes : Nat} {core : List Char} (hcore : ∀ c ∈ core, c ≠ '(' ∧ c ≠ ')')
    (hopens : reader.isAfterOperand = true → opens = 0)
    (hcloses : reader'.isAfterOperand = false → closes = 0)
    (hrun : reader.run (coreLexemes core) = .ok reader') :
    w.judge r expression (Expression.Token.ofText (String.ofList (wrapped opens core closes))) =
      (undefinedLabels r expression (labelsOf (coreLexemes core)), reader'.isAfterOperand) := by
  cases core with
  | nil =>
    -- Free-standing parentheses: the reader stays where it is.
    obtain rfl := Except.ok.inj hrun
    cases hplace : reader.isAfterOperand with
    | false =>
      have hnone : closes = 0 := hcloses hplace
      rw [judge_operand (hwants.trans hplace) hcore, if_pos (by simp [hnone])]
      rfl
    | true =>
      have hnone : opens = 0 := hopens hplace
      rw [judge_operator (hwants.trans hplace) hcore, if_pos (by simp [hnone])]
      rfl
  | cons c cs =>
    have hstep : reader.step (.word (String.ofList (c :: cs))) = .ok reader' := by
      rw [← Expression.Reader.run_singleton]
      exact hrun
    -- The word is a label, NOT, or an operator between two operands.
    obtain ⟨-, ⟨hplace, hname, hnext⟩ | ⟨hplace, hname, hnext⟩ | ⟨hplace, ⟨o, ho, hname⟩, hnext⟩⟩ :=
      Expression.Reader.step_word_cases hstep
    · have hlabel : String.ofList (c :: cs) ≠ BoolOperator.not.name := by
        intro h
        simp [h, BoolOperator.ofName?_name] at hname
      rw [judge_operand (hwants.trans hplace) hcore, if_neg (by simp), if_neg hlabel, hnext,
        coreLexemes, Expression.labelsOf_label hname, Expression.labelsOf_nil,
        undefinedLabels_singleton]
    · have hnone : closes = 0 := hcloses hnext
      have hnot := BoolOperator.ofName?_eq_some_iff.mp hname
      rw [judge_operand (hwants.trans hplace) hcore, if_neg (by simp), if_pos hnot, hnext, hnone,
        contains_close_wrapped hcore, coreLexemes, Expression.labelsOf_operator hname]
      rfl
    · have hnoneo : opens = 0 := hopens hplace
      have hnonec : closes = 0 := hcloses hnext
      have hcoreonly : wrapped opens (c :: cs) closes = c :: cs := by
        simp [wrapped, hnoneo, hnonec]
      rw [judge_operator (hwants.trans hplace) hcore, if_neg (by simp), hcoreonly, hname, hnext,
        coreLexemes, Expression.labelsOf_operator hname]
      cases o with
      | not => exact absurd rfl ho
      | _ => rfl

/-- Whatever a token that the reader accepts does to the reader, the check does as well; and it
reports just the labels in the token that name no clause. -/
theorem inStep_step (r : Rule) (expression : String) {w : Walk}
    {reader reader' : Expression.Reader} (hin : InStep w reader) {opens closes : Nat}
    {core : List Char} (hcore : ∀ c ∈ core, c ≠ '(' ∧ c ≠ ')')
    (hrun : reader.run (wrappedLexemes opens core closes) = .ok reader') :
    ∃ w', w.step r expression
        (Expression.Token.ofText (String.ofList (wrapped opens core closes))) =
      (undefinedLabels r expression (labelsOf (coreLexemes core)), w') ∧ InStep w' reader' := by
  obtain ⟨hdepth, hover, hwants⟩ := hin
  rw [wrappedLexemes, Expression.Reader.run_append, Expression.Reader.run_append] at hrun
  cases hopens : reader.run (List.replicate opens .opening) with
  | error f => simp [hopens, Except.bind] at hrun
  | ok reader₁ =>
    cases hmid : reader₁.run (coreLexemes core) with
    | error f => simp [hopens, hmid, Except.bind] at hrun
    | ok reader₂ =>
      simp only [hopens, hmid, Except.bind] at hrun
      obtain ⟨hafter₁, hgroups₁, hopens₁⟩ := Expression.Reader.run_opens hopens
      obtain ⟨hafter₂, hgroups₂, hcloses₂⟩ := Expression.Reader.run_closes hrun
      have hgroups := Expression.Reader.openGroups_run_coreLexemes hmid
      have hjudge := judge_of_run r expression (hwants.trans hafter₁.symm) hcore
        (fun h => (hopens₁ (hafter₁.symm.trans h)).1) hcloses₂ hmid
      have hbalance := balance_wrapped hcore opens closes
      have hsum : w.depth + balance (Expression.Token.ofText
          (String.ofList (wrapped opens core closes))) = openGroups reader'.stack := by
        rw [hbalance, hdepth]
        omega
      have hstep := step_of_nonneg r expression hover (hsum ▸ Int.natCast_nonneg _)
      rw [hjudge, hsum] at hstep
      exact ⟨_, hstep, rfl, rfl, hafter₂.symm⟩

/-- For words whose lexemes the reader accepts, the check reports the labels that name no clause, and
then what is wrong if the expression ends where the reader has come to. -/
theorem exists_run_of_spelled (r : Rule) (expression : String) {ws : List (List Char)}
    {ls : List Expression.Lexeme} (hspelled : Expression.Spelled ws ls) {w : Walk}
    {reader reader' : Expression.Reader} (hin : InStep w reader)
    (hrun : reader.run ls = .ok reader') :
    ∃ w', InStep w' reader' ∧
      w.run r expression (ws.map fun c => Expression.Token.ofText (String.ofList c)) =
        undefinedLabels r expression (labelsOf ls) ++ w'.finish expression := by
  induction hspelled generalizing w reader with
  | nil =>
    obtain rfl := Except.ok.inj hrun
    exact ⟨w, hin, rfl⟩
  | @cons opens closes core words ls hcore _ _ ih =>
    rw [Expression.Reader.run_append] at hrun
    cases hfirst : reader.run (wrappedLexemes opens core closes) with
    | error f => simp [hfirst, Except.bind] at hrun
    | ok reader₁ =>
      simp only [hfirst, Except.bind] at hrun
      obtain ⟨w₁, hstep, hin₁⟩ := inStep_step r expression hin hcore hfirst
      obtain ⟨w', hin', hrest⟩ := ih hin₁ hrun
      refine ⟨w', hin', ?_⟩
      rw [List.map_cons, run, hstep, Expression.labelsOf_append, undefinedLabels_append,
        Expression.labelsOf_wrappedLexemes, List.append_assoc, ← hrest]

/-- Behind an operand and with no group open, an expression may end. -/
theorem finish_of_inStep {w : Walk} {e : Expression} (hin : InStep w (.wantsOperator e []))
    (expression : String) : w.finish expression = [] := by
  obtain ⟨hdepth, -, hwants⟩ := hin
  have hground : w.depth = 0 := hdepth
  have hafter : w.wantsOperator = true := hwants
  simp [finish, issueIf, hground, hafter]

/-- For a text that is read as an expression, the check reports the operands that name no clause,
and nothing else. -/
theorem run_of_read (r : Rule) {text : String} {e : Expression}
    (hread : Expression.read text = .ok e) :
    start.run r text (Expression.tokens text) = undefinedLabels r text e.operands := by
  obtain ⟨hspelled, he, hroom⟩ := Expression.read_eq_ok_iff.mp hread
  have hrun := Expression.Reader.run_lexemes he [] (fun _ => rfl)
    (by rw [Expression.openNesting_nil, Nat.zero_add]; exact hroom) []
  rw [List.append_nil, Expression.Reader.settle_of_opensLevel rfl] at hrun
  have hin : InStep start (.wantsOperand []) := ⟨rfl, rfl, rfl⟩
  obtain ⟨w, hend, hwalk⟩ := exists_run_of_spelled r text hspelled hin hrun
  rw [Expression.tokens, hwalk, finish_of_inStep hend, List.append_nil, Expression.labelsOf_lexemes he]

end Walk

theorem expressionKinds_of_read (r : Rule) {text : String} {e : Expression}
    (hread : Expression.read text = .ok e) :
    expressionKinds r text = undefinedLabels r text e.operands := by
  rw [expressionKinds, Walk.run_of_read r hread]
  cases undefinedLabels r text e.operands with
  | nil => simp [hread]
  | cons kind kinds => rfl

theorem expressionKinds_ne_nil (r : Rule) {text : String} {f : Expression.Flaw}
    (hread : Expression.read text = .error f) : expressionKinds r text ≠ [] := by
  rw [expressionKinds]
  cases Walk.start.run r text (Expression.tokens text) with
  | nil => simp [hread]
  | cons kind kinds => simp

end RuleMatching.Lint
