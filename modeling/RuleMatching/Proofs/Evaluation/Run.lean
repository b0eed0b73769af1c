import RuleMatching.Proofs.Evaluation.Derivation
import RuleMatching.Proofs.Rule.Label

/-!
What running a rule with an expression comes to.  It goes wrong only if the expression cannot be
read or some operand names no clause.  Without passing over operands the error is the one of the
first operand that names no clause, whatever the states are: `testExpression_eq_error_iff`.
-/

set_option autoImplicit false
set_option relaxedAutoImplicit false

namespace RuleMatching

namespace Context

variable {ctx : Context} {mode : Mode} {rule : Rule} {state1 state2 : Option State}

/-- An operand is passed over if short circuits are asked for, it may not capture, and the left side
settles the result. -/
theorem skipped?_eq_some_iff {left v : Bool} {o : BoolOperator} {r : Expression} :
    skipped? mode rule left o r = some v ↔
      mode.shortCircuit = true ∧ rule.mayCaptureIn r = false ∧ o.decided? left = some v := by
  rw [skipped?, Option.ite_none_right_eq_some, Bool.and_eq_true, Bool.not_eq_true', and_assoc]

theorem skipped?_eq_none (hmode : mode.shortCircuit = false) (left : Bool) (o : BoolOperator)
    (r : Expression) : skipped? mode rule left o r = none := by
  simp [skipped?, hmode]

/-- What goes wrong in an evaluation is that some operand names no clause. -/
theorem exists_of_testExpression_eq_error {e : Expression} {run run' : Run ctx.sizeLimit}
    {err : RuleError}
    (h : ctx.testExpression mode rule state1 state2 e run = (run', .error err)) :
    ∃ l ∈ e.operands, rule.resolve l = .error err := by
  induction e generalizing run run' err with
  | operand l =>
    rw [testExpression_operand] at h
    cases hresolve : rule.resolve l with
    | error err' =>
      simp only [hresolve, Prod.mk.injEq, Except.error.injEq] at h
      obtain ⟨-, rfl⟩ := h
      exact ⟨l, List.mem_singleton_self l, hresolve⟩
    | ok c => simp [hresolve] at h
  | negation e ih =>
    rw [testExpression_negation] at h
    rcases he : ctx.testExpression mode rule state1 state2 e run with ⟨run₁, err' | v⟩
    · simp only [he, Except.map, Prod.mk.injEq, Except.error.injEq] at h
      obtain ⟨-, rfl⟩ := h
      exact ih he
    · simp [he, Except.map] at h
  | group e ih =>
    rw [testExpression_group] at h
    rcases he : ctx.testExpression mode rule state1 state2 e run with ⟨run₁, err' | v⟩
    · simp only [he, Prod.mk.injEq, Except.error.injEq] at h
      obtain ⟨-, rfl⟩ := h
      exact ih he
    · cases v <;> simp [he] at h
  | join l o r ihl ihr =>
    rw [testExpression_join] at h
    rcases hl : ctx.testExpression mode rule state1 state2 l run with ⟨run₁, err' | left⟩
    · simp only [hl, Prod.mk.injEq, Except.error.injEq] at h
      obtain ⟨-, rfl⟩ := h
      obtain ⟨k, hk, hresolve⟩ := ihl hl
      exact ⟨k, List.mem_append_left _ hk, hresolve⟩
    · cases hskip : skipped? mode rule left o r with
      | some value => simp [hl, hskip] at h
      | none =>
        rcases hr : ctx.testExpression mode rule state1 state2 r run₁ with ⟨run₂, err' | right⟩
        · simp only [hl, hskip, hr, Except.map, Prod.mk.injEq, Except.error.injEq] at h
          obtain ⟨-, rfl⟩ := h
          obtain ⟨k, hk, hresolve⟩ := ihr hr
          exact ⟨k, List.mem_append_right _ hk, hresolve⟩
        · simp [hl, hskip, hr, Except.map] at h

theorem exists_testExpression_eq_ok {e : Expression}
    (h : ∀ l ∈ e.operands, ∃ c, rule.resolve l = .ok c) (mode : Mode)
    (state1 state2 : Option State) (run : Run ctx.sizeLimit) :
    ∃ run' v, ctx.testExpression mode rule state1 state2 e run = (run', .ok v) := by
  rcases he : ctx.testExpression mode rule state1 state2 e run with ⟨run', err | v⟩
  · obtain ⟨l, hl, herr⟩ := exists_of_testExpression_eq_error he
    obtain ⟨c, hc⟩ := h l hl
    simp [hc] at herr
  · exact ⟨run', v, rfl⟩

/-- If no operand is passed over, an evaluation goes wrong just at the first operand that names no
clause. -/
theorem testExpression_eq_error_iff (hmode : mode.shortCircuit = false) {e : Expression}
    {run : Run ctx.sizeLimit} {err : RuleError} :
    (ctx.testExpression mode rule state1 state2 e run).2 = .error err ↔
      e.operands.findSome? rule.resolutionError? = some err := by
  induction e generalizing run err with
  | operand l =>
    rw [testExpression_operand, Expression.operands, List.findSome?_singleton,
      Rule.resolutionError?_eq_some_iff]
    cases rule.resolve l <;> simp
  | negation e ih =>
    rw [testExpression_negation, Expression.operands, ← ih]
    rcases ctx.testExpression mode rule state1 state2 e run with ⟨run₁, err' | v⟩ <;>
      simp [Except.map]
  | group e ih =>
    rw [testExpression_group, Expression.operands, ← ih]
    rcases ctx.testExpression mode rule state1 state2 e run with ⟨run₁, err' | v⟩
    · rfl
    · cases v <;> simp
  | join l o r ihl ihr =>
    rw [testExpression_join, Expression.operands, List.findSome?_append]
    rcases hl : ctx.testExpression mode rule state1 state2 l run with ⟨run₁, err' | left⟩
    · have hfirst := ihl.mp (congrArg Prod.snd hl)
      simp [hfirst]
    · have hfirst : l.operands.findSome? rule.resolutionError? = none := by
        cases hfound : l.operands.findSome? rule.resolutionError? with
        | none => rfl
        | some err' =>
          have herr := (@ihl run err').mpr hfound
          simp [hl] at herr
      have hsecond := @ihr run₁ err
      simp only [skipped?_eq_none hmode, hfirst, Option.none_or, ← hsecond]
      rcases ctx.testExpression mode rule state1 state2 r run₁ with ⟨run₂, err' | right⟩ <;>
        simp [Except.map]

end Context

namespace Matcher

variable {m : Matcher} {r : Rule} {text : String}

theorem run_of_read_eq_error (htext : r.expression = some text) {f : Expression.Flaw}
    (hread : Expression.read text = .error f) (mode : Mode) (state1 state2 : Option State) :
    (m.run mode r state1 state2).2 = .error (.invalidExpression text f) := by
  simp only [run, htext, lookUpExpression, Memo.lookUp_snd, hread]
  rfl

theorem run_of_read_eq_ok (htext : r.expression = some text) {tree : Expression}
    (hread : Expression.read text = .ok tree) (mode : Mode) (state1 state2 : Option State) :
    (m.run mode r state1 state2).2 =
      (Context.finished
        (m.context.testExpression mode r state1 state2 tree ⟨m.patterns, .start⟩)).2 := by
  simp only [run, htext, lookUpExpression, Memo.lookUp_snd, hread]
  rfl

/-- Running a rule with an expression comes to an evaluation just if the expression can be read and
there is a derivation of the evaluation. -/
theorem run_eq_ok_iff (htext : r.expression = some text) {mode : Mode}
    {state1 state2 : Option State} {ev : Evaluation} :
    (m.run mode r state1 state2).2 = .ok ev ↔
      ∃ tree skipped, Expression.read text = .ok tree ∧
        m.context.Evaluates mode r state1 state2 tree .start skipped ev.progress ev.matched := by
  cases hread : Expression.read text with
  | error f => simp [run_of_read_eq_error htext hread]
  | ok tree =>
    rw [run_of_read_eq_ok htext hread]
    constructor
    · intro h
      rcases he : m.context.testExpression mode r state1 state2 tree ⟨m.patterns, .start⟩ with
        ⟨run', err | v⟩
      · simp [he, Context.finished, Except.map] at h
      · obtain ⟨skipped, h'⟩ := Context.evaluates_of_testExpression he
        rw [he] at h
        obtain rfl : ⟨v, run'.progress⟩ = ev := Except.ok.inj h
        exact ⟨tree, skipped, rfl, h'⟩
    · rintro ⟨tree', skipped, htree, h⟩
      obtain rfl := Except.ok.inj htree
      obtain ⟨memo, he⟩ := h.testExpression_eq m.patterns
      rw [he]
      rfl

/-- Without passing over operands, running a rule with an expression goes wrong just if the
expression cannot be read or some operand names no clause. -/
theorem run_eq_error_iff (htext : r.expression = some text) {mode : Mode}
    (hmode : mode.shortCircuit = false) {state1 state2 : Option State} {err : RuleError} :
    (m.run mode r state1 state2).2 = .error err ↔
      (∃ f, Expression.read text = .error f ∧ err = .invalidExpression text f) ∨
        ∃ tree, Expression.read text = .ok tree ∧
          tree.operands.findSome? r.resolutionError? = some err := by
  cases hread : Expression.read text with
  | error f => simp [run_of_read_eq_error htext hread, eq_comm]
  | ok tree =>
    rw [run_of_read_eq_ok htext hread]
    have herr := @Context.testExpression_eq_error_iff m.context mode r state1 state2 hmode tree
      ⟨m.patterns, .start⟩ err
    simp only [reduceCtorEq, false_and, exists_false, Except.ok.injEq, exists_eq_left', false_or,
      ← herr]
    rcases m.context.testExpression mode r state1 state2 tree ⟨m.patterns, .start⟩ with
      ⟨run', err' | v⟩ <;> simp [Context.finished, Except.map]

/-- Running a rule with an expression does not go wrong if the expression can be read and all
operands name clauses. -/
theorem exists_run_eq_ok (htext : r.expression = some text) {tree : Expression}
    (hread : Expression.read text = .ok tree) (h : ∀ l ∈ tree.operands, ∃ c, r.resolve l = .ok c)
    (mode : Mode) (state1 state2 : Option State) :
    ∃ ev, (m.run mode r state1 state2).2 = .ok ev := by
  obtain ⟨run', v, he⟩ := @Context.exists_testExpression_eq_ok m.context r tree h mode state1 state2
    ⟨m.patterns, .start⟩
  refine ⟨⟨v, run'.progress⟩, ?_⟩
  rw [run_of_read_eq_ok htext hread, he]
  rfl

theorem exists_run_eq_ok_of_none (hnone : r.expression = none) (mode : Mode)
    (state1 state2 : Option State) : ∃ ev, (m.run mode r state1 state2).2 = .ok ev := by
  rw [run, hnone]
  exact ⟨_, rfl⟩

end Matcher

end RuleMatching
