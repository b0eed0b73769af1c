import RuleMatching.Matcher

/-!
Evaluating an expression, as a relation.  A derivation of `Context.Evaluates` says what was tested
and what was passed over, and leaves out the patterns in memory, which have no influence.  There is
a derivation just for what `testExpression` comes to, and one only: `testExpression_eq_ok_iff` and
`Evaluates.unique`.  The clauses at its leaves are answered by `clauseAnswer`, with a judgement if
their operations are built in: `clauseAnswer_of_builtIn`.
-/

set_option autoImplicit false
set_option relaxedAutoImplicit false

namespace RuleMatching.Context

/-- The answer of a clause with the captures that came before, whatever is in memory. -/
def clauseAnswer (ctx : Context) (c : Clause) (state1 state2 : Option State)
    (before : List Capture) : Answer :=
  (ctx.answerClause .empty c state1 state2 before).2

/-- What a clause with a built-in operation comes to on two states, before it is inverted. -/
def clauseJudgement (ctx : Context) (c : Clause) (state1 state2 : Option State) :
    Outcome (Option Judgement) :=
  (ctx.resolveBoth c state1 state2).andThen fun r =>
    Judgement.ofClause ctx.registry.reducers ctx.now
      ((patternAsked c r.1 r.2).bind (Pattern.ofText? ctx.sizeLimit)) c r.1 r.2

/-- There is a judgement for a clause on two states. -/
def IsDecided (ctx : Context) (c : Clause) (state1 state2 : Option State) : Prop :=
  ∃ v, ctx.clauseJudgement c state1 state2 = .value (some v)

/-- A clause with a built-in operation is answered with its judgement, and there is no match if it
has none. -/
theorem clauseAnswer_of_builtIn {ctx : Context} {c : Clause} (hbuiltIn : c.operation ≠ .custom)
    (state1 state2 : Option State) (before : List Capture) :
    (∃ r v, ctx.resolveBoth c state1 state2 = .value r ∧
        ctx.clauseJudgement c state1 state2 = .value (some v) ∧
        ctx.clauseAnswer c state1 state2 before = Judgement.answer c r.1 r.2 (some v)) ∨
      ¬ctx.IsDecided c state1 state2 ∧ ctx.clauseAnswer c state1 state2 before = .noMatch := by
  rw [IsDecided, clauseAnswer, answerClause_eq, clauseJudgement]
  cases ctx.resolveBoth c state1 state2 with
  | fault => exact .inr ⟨by simp, rfl⟩
  | value r =>
    simp only [answer, hbuiltIn, if_false, lookUpPattern_snd, Outcome.andThen_value]
    cases Judgement.ofClause ctx.registry.reducers ctx.now
      ((patternAsked c r.1 r.2).bind (Pattern.ofText? ctx.sizeLimit)) c r.1 r.2 with
    | fault => exact .inr ⟨by simp, rfl⟩
    | value v =>
      cases v with
      | none => exact .inr ⟨by simp, rfl⟩
      | some v => exact .inl ⟨r, v, rfl, rfl, rfl⟩

/-- An expression is evaluated: what was done before and after, the operands passed over in between,
and the value. -/
inductive Evaluates (ctx : Context) (mode : Mode) (rule : Rule) (state1 state2 : Option State) :
    Expression → Progress → List Expression → Progress → Bool → Prop
  | operand {l : String} {c : ClauseAt} {p : Progress} {a : Answer} :
      rule.resolve l = .ok c →
      ctx.clauseAnswer c.clause state1 state2 (p.captures.map (·.capture)) = a →
      Evaluates ctx mode rule state1 state2 (.operand l) p [] (p.addAnswer mode.traced l c a)
        a.applies
  | negation {e : Expression} {p p' : Progress} {skipped : List Expression} {v : Bool} :
      Evaluates ctx mode rule state1 state2 e p skipped p' v →
      Evaluates ctx mode rule state1 state2 (.negation e) p skipped p' (!v)
  | groupTrue {e : Expression} {p p' : Progress} {skipped : List Expression} :
      Evaluates ctx mode rule state1 state2 e p skipped p' true →
      Evaluates ctx mode rule state1 state2 (.group e) p skipped p' true
  | groupFalse {e : Expression} {p p' : Progress} {skipped : List Expression} :
      Evaluates ctx mode rule state1 state2 e p skipped p' false →
      Evaluates ctx mode rule state1 state2 (.group e) p skipped
        (p'.keepCaptures p.captures.length) false
  | joinSkipped {l r : Expression} {o : BoolOperator} {p p' : Progress}
      {skipped : List Expression} {left v : Bool} :
      Evaluates ctx mode rule state1 state2 l p skipped p' left →
      skipped? mode rule left o r = some v →
      Evaluates ctx mode rule state1 state2 (.join l o r) p (skipped ++ [r])
        (p'.addShortCircuit mode.traced o left v) v
  | joinTested {l r : Expression} {o : BoolOperator} {p p' p'' : Progress}
      {skipped skipped' : List Expression} {left right : Bool} :
      Evaluates ctx mode rule state1 state2 l p skipped p' left →
      skipped? mode rule left o r = none →
      Evaluates ctx mode rule state1 state2 r p' skipped' p'' right →
      Evaluates ctx mode rule state1 state2 (.join l o r) p (skipped ++ skipped') p''
        (o.apply left right)

theorem testClause_eq (ctx : Context) (mode : Mode) (state1 state2 : Option State) (name : String)
    (c : ClauseAt) (run : Run ctx.sizeLimit) :
    ∃ memo, ctx.testClause mode state1 state2 name c run =
      (⟨memo, run.progress.addAnswer mode.traced name c (ctx.clauseAnswer c.clause state1 state2
          (run.progress.captures.map (·.capture)))⟩,
        (ctx.clauseAnswer c.clause state1 state2
          (run.progress.captures.map (·.capture))).applies) := by
  refine ⟨(ctx.answerClause run.memo c.clause state1 state2
    (run.progress.captures.map (·.capture))).1, ?_⟩
  rw [clauseAnswer, answerClause_snd ctx .empty run.memo]
  rfl

variable {ctx : Context} {mode : Mode} {rule : Rule} {state1 state2 : Option State}

/-- There is one derivation at most. -/
theorem Evaluates.unique {e : Expression} {p p' q' : Progress} {skipped skipped' : List Expression}
    {v w : Bool} (h : ctx.Evaluates mode rule state1 state2 e p skipped p' v)
    (h' : ctx.Evaluates mode rule state1 state2 e p skipped' q' w) :
    skipped' = skipped ∧ q' = p' ∧ w = v := by
  induction h generalizing q' skipped' w with
  | operand hresolve ha =>
    cases h' with
    | operand hresolve' ha' =>
      obtain rfl := Except.ok.inj (hresolve'.symm.trans hresolve)
      obtain rfl := ha'.symm.trans ha
      exact ⟨rfl, rfl, rfl⟩
  | negation _ ih =>
    cases h' with
    | negation h' =>
      obtain ⟨rfl, rfl, rfl⟩ := ih h'
      exact ⟨rfl, rfl, rfl⟩
  | groupTrue _ ih =>
    cases h' with
    | groupTrue h' => exact ih h'
    | groupFalse h' => exact absurd (ih h').2.2 (by decide)
  | groupFalse _ ih =>
    cases h' with
    | groupTrue h' => exact absurd (ih h').2.2 (by decide)
    | groupFalse h' =>
      obtain ⟨rfl, rfl, -⟩ := ih h'
      exact ⟨rfl, rfl, rfl⟩
  | joinSkipped _ hskip ih =>
    cases h' with
    | joinSkipped h' hskip' =>
      obtain ⟨rfl, rfl, rfl⟩ := ih h'
      obtain rfl := Option.some.inj (hskip'.symm.trans hskip)
      exact ⟨rfl, rfl, rfl⟩
    | joinTested h' hskip' _ =>
      obtain ⟨-, -, rfl⟩ := ih h'
      exact absurd (hskip'.symm.trans hskip) (by simp)
  | joinTested _ hskip _ ihl ihr =>
    cases h' with
    | joinSkipped h' hskip' =>
      obtain ⟨-, -, rfl⟩ := ihl h'
      exact absurd (hskip'.symm.trans hskip) (by simp)
    | joinTested hl' _ hr' =>
      obtain ⟨rfl, rfl, rfl⟩ := ihl hl'
      obtain ⟨rfl, rfl, rfl⟩ := ihr hr'
      exact ⟨rfl, rfl, rfl⟩

/-- What can be derived is what evaluating comes to. -/
theorem Evaluates.testExpression_eq {e : Expression} {p p' : Progress} {skipped : List Expression}
    {v : Bool} (h : ctx.Evaluates mode rule state1 state2 e p skipped p' v)
    (memo : PatternMemo ctx.sizeLimit) :
    ∃ memo', ctx.testExpression mode rule state1 state2 e ⟨memo, p⟩ = (⟨memo', p'⟩, .ok v) := by
  induction h generalizing memo with
  | @operand l c p a hresolve ha =>
    obtain ⟨memo', hclause⟩ := testClause_eq ctx mode state1 state2 l c ⟨memo, p⟩
    subst ha
    exact ⟨memo', by rw [testExpression_operand, hresolve]; simp only [hclause]⟩
  | negation _ ih =>
    obtain ⟨memo', h'⟩ := ih memo
    exact ⟨memo', by rw [testExpression_negation, h']; rfl⟩
  | groupTrue _ ih =>
    obtain ⟨memo', h'⟩ := ih memo
    exact ⟨memo', by rw [testExpression_group, h']⟩
  | groupFalse _ ih =>
    obtain ⟨memo', h'⟩ := ih memo
    exact ⟨memo', by rw [testExpression_group, h']⟩
  | joinSkipped _ hskip ih =>
    obtain ⟨memo', h'⟩ := ih memo
    exact ⟨memo', by rw [testExpression_join, h']; simp only [hskip]⟩
  | joinTested _ hskip _ ihl ihr =>
    obtain ⟨memo', hl⟩ := ihl memo
    obtain ⟨memo'', hr⟩ := ihr memo'
    exact ⟨memo'', by rw [testExpression_join, hl]; simp only [hskip, hr]; rfl⟩

/-- What evaluating comes to can be derived. -/
theorem evaluates_of_testExpression {e : Expression} {run run' : Run ctx.sizeLimit} {v : Bool}
    (h : ctx.testExpression mode rule state1 state2 e run = (run', .ok v)) :
    ∃ skipped, ctx.Evaluates mode rule state1 state2 e run.progress skipped run'.progress v := by
  induction e generalizing run run' v with
  | operand l =>
    rw [testExpression_operand] at h
    cases hresolve : rule.resolve l with
    | error err => simp [hresolve] at h
    | ok c =>
      obtain ⟨memo, hclause⟩ := testClause_eq ctx mode state1 state2 l c run
      simp only [hresolve, hclause, Prod.mk.injEq, Except.ok.injEq] at h
      obtain ⟨rfl, rfl⟩ := h
      exact ⟨[], .operand hresolve rfl⟩
  | negation e ih =>
    rw [testExpression_negation] at h
    rcases he : ctx.testExpression mode rule state1 state2 e run with ⟨run₁, err | v₁⟩
    · simp [he, Except.map] at h
    · simp only [he, Except.map, Prod.mk.injEq, Except.ok.injEq] at h
      obtain ⟨rfl, rfl⟩ := h
      obtain ⟨skipped, h'⟩ := ih he
      exact ⟨skipped, .negation h'⟩
  | group e ih =>
    rw [testExpression_group] at h
    rcases he : ctx.testExpression mode rule state1 state2 e run with ⟨run₁, err | v₁⟩
    · simp [he] at h
    · obtain ⟨skipped, h'⟩ := ih he
      cases v₁ with
      | false =>
        simp only [he, Prod.mk.injEq, Except.ok.injEq] at h
        obtain ⟨rfl, rfl⟩ := h
        exact ⟨skipped, .groupFalse h'⟩
      | true =>
        simp only [he, Prod.mk.injEq, Except.ok.injEq] at h
        obtain ⟨rfl, rfl⟩ := h
        exact ⟨skipped, .groupTrue h'⟩
  | join l o r ihl ihr =>
    rw [testExpression_join] at h
    rcases hl : ctx.testExpression mode rule state1 state2 l run with ⟨run₁, err | left⟩
    · simp [hl] at h
    · obtain ⟨skipped, hl'⟩ := ihl hl
      cases hskip : skipped? mode rule left o r with
      | some value =>
        simp only [hl, hskip, Prod.mk.injEq, Except.ok.injEq] at h
        obtain ⟨rfl, rfl⟩ := h
        exact ⟨skipped ++ [r], .joinSkipped hl' hskip⟩
      | none =>
        rcases hr : ctx.testExpression mode rule state1 state2 r run₁ with ⟨run₂, err | right⟩
        · simp [hl, hskip, hr, Except.map] at h
        · simp only [hl, hskip, hr, Except.map, Prod.mk.injEq, Except.ok.injEq] at h
          obtain ⟨rfl, rfl⟩ := h
          obtain ⟨skipped', hr'⟩ := ihr hr
          exact ⟨skipped ++ skipped', .joinTested hl' hskip hr'⟩

/-- Evaluating an expression comes to a value just if there is a derivation of it. -/
theorem testExpression_eq_ok_iff {e : Expression} {run : Run ctx.sizeLimit} {p : Progress}
    {v : Bool} :
    (∃ memo, ctx.testExpression mode rule state1 state2 e run = (⟨memo, p⟩, .ok v)) ↔
      ∃ skipped, ctx.Evaluates mode rule state1 state2 e run.progress skipped p v := by
  constructor
  · rintro ⟨memo, h⟩
    exact evaluates_of_testExpression h
  · rintro ⟨skipped, h⟩
    exact h.testExpression_eq run.memo

end RuleMatching.Context
