import RuleMatching.Proofs.Evaluation.Answering

/-!
Traces of evaluations.  Keeping a trace does not interfere: without one an evaluation comes to the same,
an error included, but for the trace: `Answering.evaluation_untraced`.  And a trace accounts for every
step.  An expression is evaluated in `Answering.steps`, in each of which an operand is tested or a part
is passed over; there is one line for each, and together they are about all operands from left to right:
`Answering.value_accounted` and `Answering.operands_steps`.  A line about an operand says whether its
clause applies with the captures that the evaluation has when it comes to the operand:
`Answering.exists_comesTo`.
-/

set_option autoImplicit false
set_option relaxedAutoImplicit false

namespace RuleMatching

/-! ### Without a trace -/

namespace Progress

/-- The same progress without a trace. -/
def untraced (p : Progress) : Progress := { p with trace := [] }

variable (p : Progress) (traced : Bool)

theorem untraced_note (line : String) : (p.note traced line).untraced = p.untraced := by
  cases traced <;> rfl

theorem untraced_addAnswer (name : String) (c : ClauseAt) (a : Answer) :
    (p.addAnswer traced name c a).untraced = p.untraced.addAnswer false name c a := by
  cases traced <;> cases h : a.applies <;> simp [addAnswer, h, untraced, note]

theorem untraced_addShortCircuit (operator : BoolOperator) (left value : Bool) :
    (p.addShortCircuit traced operator left value).untraced =
      p.untraced.addShortCircuit false operator left value := by
  cases traced <;> rfl

end Progress

/-- The same evaluation without a trace. -/
def Evaluation.untraced (ev : Evaluation) : Evaluation := { ev with progress := ev.progress.untraced }

namespace Answering

variable (answering : Answering) (shortCircuit traced : Bool) (r : Rule)

theorem clauseValue_untraced (name : String) (c : ClauseAt) (p : Progress) :
    answering.clauseValue ⟨shortCircuit, false⟩ name c p.untraced =
      ((answering.clauseValue ⟨shortCircuit, traced⟩ name c p).1.untraced,
        (answering.clauseValue ⟨shortCircuit, traced⟩ name c p).2) := by
  simp only [clauseValue, Progress.untraced_addAnswer]
  rfl

theorem allValue_untraced (cs : List ClauseAt) (p : Progress) :
    answering.allValue ⟨shortCircuit, false⟩ cs p.untraced =
      ((answering.allValue ⟨shortCircuit, traced⟩ cs p).1.untraced,
        (answering.allValue ⟨shortCircuit, traced⟩ cs p).2) := by
  induction cs generalizing p with
  | nil => rfl
  | cons c cs ih =>
    rw [allValue, allValue, clauseValue_untraced answering shortCircuit traced]
    rcases answering.clauseValue ⟨shortCircuit, traced⟩ (Numeral.text c.index) c p with ⟨q, applies⟩
    cases applies with
    | true => exact ih q
    | false => simp only [Progress.untraced_note]; rfl

/-- Without a trace an expression comes to the same value or error. -/
theorem value_untraced (e : Expression) (p : Progress) :
    answering.value ⟨shortCircuit, false⟩ r e p.untraced =
      ((answering.value ⟨shortCircuit, traced⟩ r e p).1.untraced,
        (answering.value ⟨shortCircuit, traced⟩ r e p).2) := by
  induction e generalizing p with
  | operand l =>
    rw [value, value]
    cases r.resolve l with
    | error err => rfl
    | ok c => simp only [clauseValue_untraced answering shortCircuit traced]
  | negation e ih => rw [value, value, ih]
  | group e ih =>
    rw [value, value, ih]
    rcases answering.value ⟨shortCircuit, traced⟩ r e p with ⟨q, err | v⟩
    · rfl
    · cases v <;> rfl
  | join l o e ihl ihe =>
    rw [value, value, ihl]
    rcases answering.value ⟨shortCircuit, traced⟩ r l p with ⟨q, err | left⟩
    · rfl
    · -- Whether the right side is passed over does not depend on the trace.
      have hskipped : Context.skipped? ⟨shortCircuit, false⟩ r left o e =
          Context.skipped? ⟨shortCircuit, traced⟩ r left o e := rfl
      simp only [hskipped]
      cases Context.skipped? ⟨shortCircuit, traced⟩ r left o e with
      | some v => simp only [Progress.untraced_addShortCircuit]
      | none => simp only [ihe]

/-- Without a trace a rule comes to the same, but for the trace. -/
theorem evaluation_untraced :
    answering.evaluation ⟨shortCircuit, false⟩ r =
      (answering.evaluation ⟨shortCircuit, traced⟩ r).map Evaluation.untraced := by
  rw [evaluation, evaluation]
  cases r.expression with
  | none =>
    have hall : answering.allValue ⟨shortCircuit, false⟩ r.clausesAt .start = _ :=
      answering.allValue_untraced shortCircuit traced r.clausesAt .start
    simp only [hall]
    rfl
  | some text =>
    simp only
    cases Expression.read text with
    | error flaw => rfl
    | ok tree =>
      have hvalue : answering.value ⟨shortCircuit, false⟩ r tree .start = _ :=
        answering.value_untraced shortCircuit traced r tree .start
      simp only [hvalue]
      rcases answering.value ⟨shortCircuit, traced⟩ r tree .start with ⟨q, err | v⟩ <;> rfl

end Answering

/-! ### Steps -/

/-- A step of an evaluation: a clause is tested with the captures before it, or a part is passed
over. -/
inductive Step where
  | tested (label : String) (c : ClauseAt) (before : List Capture) (applies : Bool)
  | passedOver (part : Expression) (operator : BoolOperator) (left value : Bool)

namespace Step

def isTested : Step → Bool
  | tested _ _ _ _ => true
  | passedOver _ _ _ _ => false

/-- The operands that a step is about. -/
def operands : Step → List String
  | tested label _ _ _ => [label]
  | passedOver part _ _ _ => part.operands

/-- The line of the trace about a step. -/
def line : Step → String
  | tested label c _ applies => Progress.clauseLine label c.clause.operation applies
  | passedOver _ operator left value => Progress.shortCircuitLine operator left value

end Step

/-- Steps lead from one state of an evaluation to another: each is counted, and each leaves its line. -/
structure Progress.Accounted (traced : Bool) (steps : List Step) (p q : Progress) : Prop where
  trace : q.trace = p.trace ++ if traced then steps.map Step.line else []
  clausesTested : q.clausesTested = p.clausesTested + steps.countP Step.isTested
  shortCircuits : q.shortCircuits = p.shortCircuits + steps.countP fun s => !s.isTested

namespace Progress.Accounted

variable {traced : Bool} {steps steps' : List Step} {p q s : Progress}

theorem refl (traced : Bool) (p : Progress) : Accounted traced [] p p :=
  ⟨by simp, by simp, by simp⟩

theorem trans (h : Accounted traced steps p q) (h' : Accounted traced steps' q s) :
    Accounted traced (steps ++ steps') p s where
  trace := by
    rw [h'.trace, h.trace]
    cases traced <;> simp
  clausesTested := by rw [h'.clausesTested, h.clausesTested, List.countP_append, Nat.add_assoc]
  shortCircuits := by rw [h'.shortCircuits, h.shortCircuits, List.countP_append, Nat.add_assoc]

theorem keepCaptures (h : Accounted traced steps p q) (count : Nat) :
    Accounted traced steps p (q.keepCaptures count) :=
  ⟨h.trace, h.clausesTested, h.shortCircuits⟩

theorem addAnswer (label : String) (c : ClauseAt) (before : List Capture) (a : Answer)
    (p : Progress) :
    Accounted traced [.tested label c before a.applies] p (p.addAnswer traced label c a) :=
  ⟨by cases traced <;> simp [Step.line], by simp [Step.isTested], by simp [Step.isTested]⟩

theorem addShortCircuit (part : Expression) (operator : BoolOperator) (left value : Bool)
    (p : Progress) :
    Accounted traced [.passedOver part operator left value] p
      (p.addShortCircuit traced operator left value) :=
  ⟨by cases traced <;> simp [Step.line], by simp [Step.isTested], by simp [Step.isTested]⟩

end Progress.Accounted

namespace Answering

variable (answering : Answering) (mode : Mode) (r : Rule)

/-- The step in which a clause is tested. -/
def stepOf (label : String) (c : ClauseAt) (p : Progress) : Step :=
  let before := p.captures.map (·.capture)
  .tested label c before (answering c.clause before).applies

/-- The steps in which clauses are tested one after the other, up to the first that does not apply. -/
def allSteps : List ClauseAt → Progress → List Step
  | [], _ => []
  | c :: cs, p =>
      answering.stepOf (Numeral.text c.index) c p ::
        match answering.clauseValue mode (Numeral.text c.index) c p with
        | (p, true) => allSteps cs p
        | (_, false) => []

/-- The steps in which an expression is evaluated, in order. -/
def steps : Expression → Progress → List Step
  | .operand label, p =>
      match r.resolve label with
      | .error _ => []
      | .ok c => [answering.stepOf label c p]
  | .negation e, p => steps e p
  | .group e, p => steps e p
  | .join left operator right, p =>
      steps left p ++
        match answering.value mode r left p with
        | (_, .error _) => []
        | (p, .ok v) =>
            match Context.skipped? mode r v operator right with
            | some value => [.passedOver right operator v value]
            | none => steps right p

/-- The steps in which a rule is evaluated with the tree of its expression, or without an expression. -/
def treeSteps : Option Expression → List Step
  | none => answering.allSteps mode r.clausesAt .start
  | some tree => answering.steps mode r tree .start

/-- The steps in which a rule is evaluated, whatever its target is. -/
def ruleSteps : List Step :=
  match r.expression with
  | none => answering.treeSteps mode r none
  | some text =>
      match Expression.read text with
      | .error _ => []
      | .ok tree => answering.treeSteps mode r (some tree)

theorem clauseValue_accounted (label : String) (c : ClauseAt) (p : Progress) :
    Progress.Accounted mode.traced [answering.stepOf label c p] p
      (answering.clauseValue mode label c p).1 :=
  .addAnswer label c _ _ p

/-- Whatever an expression comes to, the trace and the counts account for its steps. -/
theorem value_accounted (e : Expression) (p : Progress) :
    Progress.Accounted mode.traced (answering.steps mode r e p) p (answering.value mode r e p).1 := by
  induction e generalizing p with
  | operand l =>
    rw [steps, value]
    cases r.resolve l with
    | error err => exact .refl _ p
    | ok c => exact answering.clauseValue_accounted mode l c p
  | negation e ih =>
    rw [steps, value]
    exact ih p
  | group e ih =>
    have hinner := ih p
    rw [steps, value]
    rcases he : answering.value mode r e p with ⟨q, err | v⟩
    · rwa [he] at hinner
    · rw [he] at hinner
      cases v with
      | false => exact hinner.keepCaptures _
      | true => exact hinner
  | join l o e ihl ihe =>
    have hleft := ihl p
    rw [steps, value]
    rcases hl : answering.value mode r l p with ⟨q, err | left⟩
    · rw [hl] at hleft
      simpa using hleft
    · rw [hl] at hleft
      cases hskip : Context.skipped? mode r left o e with
      | some v =>
        simp only [hskip]
        exact hleft.trans (.addShortCircuit e o left v q)
      | none =>
        simp only [hskip]
        exact hleft.trans (ihe q)

/-- Evaluating an expression comes to the test of an operand, with what was done until then. -/
inductive ComesTo : Expression → Progress → String → Progress → Prop
  | operand {l : String} {p : Progress} : ComesTo (.operand l) p l p
  | negation {e : Expression} {p q : Progress} {l : String} :
      ComesTo e p l q → ComesTo (.negation e) p l q
  | group {e : Expression} {p q : Progress} {l : String} :
      ComesTo e p l q → ComesTo (.group e) p l q
  | left {a b : Expression} {o : BoolOperator} {p q : Progress} {l : String} :
      ComesTo a p l q → ComesTo (.join a o b) p l q
  | right {a b : Expression} {o : BoolOperator} {p p' q : Progress} {v : Bool} {l : String} :
      answering.value mode r a p = (p', .ok v) → Context.skipped? mode r v o b = none →
      ComesTo b p' l q → ComesTo (.join a o b) p l q

variable {answering mode r}

/-- A step that tests an operand stands where the evaluation comes to the operand: the steps before it
account for what was done until then, and the clause is answered with the captures at hand there. -/
theorem exists_comesTo {e : Expression} {p : Progress} {i : Nat} {l : String} {c : ClauseAt}
    {before : List Capture} {applies : Bool}
    (h : (answering.steps mode r e p)[i]? = some (.tested l c before applies)) :
    ∃ q, answering.ComesTo mode r e p l q ∧ r.resolve l = .ok c ∧
      Progress.Accounted mode.traced ((answering.steps mode r e p).take i) p q ∧
      .tested l c before applies = answering.stepOf l c q := by
  induction e generalizing p i with
  | operand l' =>
    rw [steps] at h ⊢
    cases hresolve : r.resolve l' with
    | error err => simp [hresolve] at h
    | ok c' =>
      simp only [hresolve, List.getElem?_singleton, Option.ite_none_right_eq_some,
        Option.some.injEq] at h
      obtain ⟨rfl, htested⟩ := h
      obtain ⟨rfl, rfl, -, -⟩ := Step.tested.inj htested
      exact ⟨p, .operand, hresolve, .refl _ p, htested.symm⟩
  | negation e ih =>
    rw [steps] at h ⊢
    obtain ⟨q, hcomes, hrest⟩ := ih h
    exact ⟨q, .negation hcomes, hrest⟩
  | group e ih =>
    rw [steps] at h ⊢
    obtain ⟨q, hcomes, hrest⟩ := ih h
    exact ⟨q, .group hcomes, hrest⟩
  | join a o b iha ihb =>
    rw [steps] at h ⊢
    rcases Nat.lt_or_ge i (answering.steps mode r a p).length with hi | hi
    · rw [List.getElem?_append_left hi] at h
      obtain ⟨q, hcomes, hresolve, haccounted, hstep⟩ := iha h
      rw [List.take_append_of_le_length (Nat.le_of_lt hi)]
      exact ⟨q, .left hcomes, hresolve, haccounted, hstep⟩
    · -- The left side has come to its end, and `h` is about the right side.
      rw [List.getElem?_append_right hi] at h
      have hleft := answering.value_accounted mode r a p
      rw [List.take_append, List.take_of_length_le hi]
      rcases hvalue : answering.value mode r a p with ⟨p', err | v⟩
      · simp [hvalue] at h
      · rw [hvalue] at hleft
        cases hskip : Context.skipped? mode r v o b with
        | some w =>
          simp only [hvalue, hskip, List.getElem?_singleton, Option.ite_none_right_eq_some,
            Option.some.injEq, reduceCtorEq, and_false] at h
        | none =>
          simp only [hvalue, hskip] at h ⊢
          obtain ⟨q, hcomes, hresolve, haccounted, hstep⟩ := ihb h
          exact ⟨q, .right hvalue hskip hcomes, hresolve, hleft.trans haccounted, hstep⟩

/-- Clauses are tested one after the other, each with the captures of those before it, which all
apply. -/
theorem exists_of_getElem?_allSteps {cs : List ClauseAt} {p : Progress} {i : Nat} {s : Step}
    (h : (answering.allSteps mode cs p)[i]? = some s) :
    ∃ c q, cs[i]? = some c ∧ answering.allValue mode (cs.take i) p = (q, true) ∧
      s = answering.stepOf (Numeral.text c.index) c q := by
  induction cs generalizing p i with
  | nil => simp [allSteps] at h
  | cons c cs ih =>
    rw [allSteps] at h
    cases i with
    | zero => exact ⟨c, p, rfl, rfl, (Option.some.inj h).symm⟩
    | succ i =>
      rw [List.getElem?_cons_succ] at h
      rcases hclause : answering.clauseValue mode (Numeral.text c.index) c p with ⟨q, _ | _⟩
      · simp [hclause] at h
      · rw [hclause] at h
        obtain ⟨c', q', hc', hvalue, hstep⟩ := ih h
        refine ⟨c', q', hc', ?_, hstep⟩
        rw [List.take_succ_cons, allValue, hclause]
        exact hvalue

/-- Testing clauses one after the other leaves a line for each clause tested, and one more if the last of
them does not apply. -/
theorem exists_allValue_accounted (cs : List ClauseAt) (p : Progress) :
    ∃ q, Progress.Accounted mode.traced (answering.allSteps mode cs p) p q ∧
      (answering.allValue mode cs p = (q, true) ∨
        ∃ c, cs[(answering.allSteps mode cs p).length - 1]? = some c ∧
          answering.allValue mode cs p =
            (q.note mode.traced (Progress.failureLine c.index), false)) := by
  induction cs generalizing p with
  | nil => exact ⟨p, .refl _ p, .inl rfl⟩
  | cons c cs ih =>
    have htested := answering.clauseValue_accounted mode (Numeral.text c.index) c p
    rw [allSteps, allValue]
    rcases hclause : answering.clauseValue mode (Numeral.text c.index) c p with ⟨q, applies⟩
    rw [hclause] at htested
    cases applies with
    | false =>
      -- No clause behind this one is tested; the line about the failure belongs to no step.
      exact ⟨q, htested, .inr ⟨c, rfl, rfl⟩⟩
    | true =>
      obtain ⟨q', haccounted, hvalue⟩ := ih q
      refine ⟨q', htested.trans haccounted, hvalue.imp_right ?_⟩
      rintro ⟨c', hc', hvalue'⟩
      refine ⟨c', ?_, hvalue'⟩
      cases hsteps : answering.allSteps mode cs q with
      | nil =>
        cases cs with
        | nil => simp at hc'
        | cons _ _ => simp [allSteps] at hsteps
      | cons s ss => simpa [hsteps] using hc'

theorem isTested_of_mem_allSteps {cs : List ClauseAt} {p : Progress} {s : Step}
    (h : s ∈ answering.allSteps mode cs p) : s.isTested = true := by
  obtain ⟨i, hi⟩ := List.mem_iff_getElem?.mp h
  obtain ⟨c, q, -, -, rfl⟩ := exists_of_getElem?_allSteps hi
  rfl

/-- The trace of clauses that are tested one after the other: a line for each step, and one more about
the last of them if it does not apply. -/
theorem trace_allValue (htraced : mode.traced = true) {cs : List ClauseAt} {q : Progress} {v : Bool}
    (h : answering.allValue mode cs .start = (q, v)) :
    q.clausesTested = (answering.allSteps mode cs .start).length ∧
      ∃ failure, q.trace = (answering.allSteps mode cs .start).map Step.line ++ failure ∧
        (v = true → failure = []) ∧
        (v = false → ∃ c, cs[q.clausesTested - 1]? = some c ∧
          failure = [Progress.failureLine c.index]) := by
  obtain ⟨q', haccounted, hvalue⟩ :=
    @exists_allValue_accounted answering mode cs .start
  have hlines : q'.trace = (answering.allSteps mode cs .start).map Step.line := by
    rw [haccounted.trace, htraced, if_pos rfl]
    rfl
  have htested : q'.clausesTested = (answering.allSteps mode cs .start).length := by
    rw [haccounted.clausesTested, List.countP_eq_length.mpr fun _ => isTested_of_mem_allSteps]
    exact Nat.zero_add _
  rcases hvalue with hvalue | ⟨c, hc, hvalue⟩
  · obtain ⟨rfl, rfl⟩ := Prod.mk.inj (hvalue.symm.trans h)
    exact ⟨htested, [], by rw [hlines, List.append_nil], fun _ => rfl, by simp⟩
  · obtain ⟨rfl, rfl⟩ := Prod.mk.inj (hvalue.symm.trans h)
    refine ⟨by rw [Progress.note_clausesTested, htested], [Progress.failureLine c.index], ?_,
      by simp, fun _ => ⟨c, ?_, rfl⟩⟩
    · rw [Progress.note_trace, hlines, htraced, if_pos rfl]
    · rwa [Progress.note_clausesTested, htested]

/-- The steps of an evaluation that does not go wrong are about all operands, from left to right. -/
theorem operands_steps {e : Expression} {p q : Progress} {v : Bool}
    (h : answering.value mode r e p = (q, .ok v)) :
    (answering.steps mode r e p).flatMap Step.operands = e.operands := by
  induction e generalizing p q v with
  | operand l =>
    rw [value] at h
    rw [steps]
    cases hresolve : r.resolve l with
    | error err => simp [hresolve] at h
    | ok c => rfl
  | negation e ih =>
    rw [value] at h
    rw [steps, Expression.operands]
    rcases he : answering.value mode r e p with ⟨q', err | v'⟩
    · simp [he, Except.map] at h
    · exact ih he
  | group e ih =>
    rw [value] at h
    rw [steps, Expression.operands]
    rcases he : answering.value mode r e p with ⟨q', err | v'⟩
    · simp [he] at h
    · exact ih he
  | join l o e ihl ihe =>
    rw [value] at h
    rw [steps, Expression.operands, List.flatMap_append]
    rcases hl : answering.value mode r l p with ⟨q', err | left⟩
    · simp [hl] at h
    · rw [ihl hl]
      cases hskip : Context.skipped? mode r left o e with
      | some v' => simp [hskip, Step.operands]
      | none =>
        rcases he : answering.value mode r e q' with ⟨q'', err | right⟩
        · simp [hl, hskip, he, Except.map] at h
        · simp only [hskip, ihe he]

theorem exists_value_of_evaluation {text : String} (htext : r.expression = some text)
    {ev : Evaluation} (h : answering.evaluation mode r = .ok ev) :
    ∃ tree, Expression.read text = .ok tree ∧
      answering.value mode r tree .start = (ev.progress, .ok ev.matched) := by
  rw [evaluation, htext] at h
  simp only at h
  cases hread : Expression.read text with
  | error flaw => simp [hread] at h
  | ok tree =>
    refine ⟨tree, rfl, ?_⟩
    rcases hvalue : answering.value mode r tree .start with ⟨q, err | v⟩
    · simp [hread, hvalue, Except.map] at h
    · simp only [hread, hvalue] at h
      obtain rfl := Except.ok.inj h
      rfl

/-! ### What stands in a trace -/

/-- The trace of an evaluation of an expression: a line for each step in order, the `i`-th about the
`i`-th step.  The steps are about all operands from left to right. -/
structure TracesSteps (answering : Answering) (mode : Mode) (r : Rule) (tree : Expression)
    (ev : Evaluation) : Prop where
  trace : ev.progress.trace = (answering.steps mode r tree .start).map Step.line
  operands : (answering.steps mode r tree .start).flatMap Step.operands = tree.operands
  clausesTested :
    (answering.steps mode r tree .start).countP Step.isTested = ev.progress.clausesTested
  length : ev.progress.trace.length = ev.progress.clausesTested + ev.progress.shortCircuits
  /-- The line about an operand says whether its clause applies with the captures at hand when the
  evaluation comes to it. -/
  tested : ∀ (i : Nat) (label : String) (c : ClauseAt) (before : List Capture) (applies : Bool),
    (answering.steps mode r tree .start)[i]? = some (.tested label c before applies) →
      ev.progress.trace[i]? = some (label ++ ": " ++ c.clause.operation.name ++ " => " ++
        if applies then "MATCHED" else "NOT_MATCHED") ∧
      applies = (answering c.clause before).applies ∧ r.resolve label = .ok c ∧
      ∃ p, answering.ComesTo mode r tree .start label p ∧
        before = p.captures.map (·.capture) ∧ p.trace = ev.progress.trace.take i
  passedOver : ∀ (i : Nat) (part : Expression) (operator : BoolOperator) (left value : Bool),
    (answering.steps mode r tree .start)[i]? = some (.passedOver part operator left value) →
      ev.progress.trace[i]? = some (operator.name ++ " 短路 - 左侧为 " ++
        (if left then "true" else "false") ++ "，结果为 " ++ if value then "true" else "false")

/-- The trace of an evaluation of clauses one after the other: a line for each clause tested, with the
captures of the clauses before it, which all apply, and one more if the last does not. -/
structure TracesClauses (answering : Answering) (mode : Mode) (r : Rule) (ev : Evaluation) :
    Prop where
  length : ev.progress.trace.length = ev.progress.clausesTested + if ev.matched then 0 else 1
  tested : ∀ i < ev.progress.clausesTested, ∃ c p, r.clauses[i]? = some c ∧
    answering.allValue mode (r.clausesAt.take i) .start = (p, true) ∧
    ev.progress.trace[i]? = some (Numeral.text i ++ ": " ++ c.operation.name ++ " => " ++
      if (answering c (p.captures.map (·.capture))).applies then "MATCHED" else "NOT_MATCHED")
  failure : ev.matched = false → ev.progress.trace[ev.progress.clausesTested]? =
    some ("子句 " ++ Numeral.text (ev.progress.clausesTested - 1) ++ " 不成立，规则不匹配")

theorem tracesSteps_of_evaluation (htraced : mode.traced = true) {tree : Expression}
    {ev : Evaluation} (h : answering.value mode r tree .start = (ev.progress, .ok ev.matched)) :
    answering.TracesSteps mode r tree ev := by
  have haccounted := answering.value_accounted mode r tree .start
  rw [h] at haccounted
  obtain ⟨htrace, htested, hpassed⟩ := haccounted
  have hlines : ev.progress.trace = _ := htrace.trans (List.nil_append _)
  have htested : ev.progress.clausesTested = _ := htested.trans (Nat.zero_add _)
  have hpassed : ev.progress.shortCircuits = _ := hpassed.trans (Nat.zero_add _)
  rw [htraced, if_pos rfl] at hlines
  refine ⟨hlines, operands_steps h, htested.symm, ?_, ?_, ?_⟩
  · rw [hlines, htested, hpassed, List.length_map]
    simpa using List.length_eq_countP_add_countP Step.isTested
  · intro i label c before applies hi
    obtain ⟨p, hcomes, hresolve, haccounted, hstep⟩ := exists_comesTo hi
    obtain ⟨-, -, rfl, rfl⟩ := Step.tested.inj hstep
    refine ⟨?_, rfl, hresolve, p, hcomes, rfl, ?_⟩
    · rw [hlines, List.getElem?_map, hi]
      rfl
    · rw [haccounted.trace, hlines, htraced, if_pos rfl, List.map_take]
      exact List.nil_append _
  · intro i part operator left value hi
    rw [hlines, List.getElem?_map, hi]
    rfl

theorem tracesClauses_of_evaluation (htraced : mode.traced = true) {ev : Evaluation}
    (h : answering.allValue mode r.clausesAt .start = (ev.progress, ev.matched)) :
    answering.TracesClauses mode r ev := by
  obtain ⟨htested, failure, hlines, hholds, hfails⟩ := trace_allValue htraced h
  refine ⟨?_, ?_, ?_⟩
  · rw [hlines, List.length_append, List.length_map, ← htested]
    cases hmatched : ev.matched with
    | true => rw [hholds hmatched]; rfl
    | false =>
      obtain ⟨c, -, rfl⟩ := hfails hmatched
      rfl
  · intro i hi
    rw [htested] at hi
    obtain ⟨c, p, hc, hvalue, hstep⟩ :=
      exists_of_getElem?_allSteps (List.getElem?_eq_getElem hi)
    rw [Rule.getElem?_clausesAt] at hc
    obtain ⟨clause, hclause, rfl⟩ := Option.map_eq_some_iff.mp hc
    refine ⟨clause, p, hclause, hvalue, ?_⟩
    rw [hlines, List.getElem?_append_left (by rwa [List.length_map]), List.getElem?_map,
      List.getElem?_eq_getElem hi, hstep]
    rfl
  · intro hmatched
    obtain ⟨c, hc, rfl⟩ := hfails hmatched
    rw [Rule.getElem?_clausesAt] at hc
    obtain ⟨clause, -, rfl⟩ := Option.map_eq_some_iff.mp hc
    have hlast : ev.progress.clausesTested =
        ((answering.allSteps mode r.clausesAt .start).map Step.line).length := by
      rw [List.length_map, htested]
    rw [hlines]
    simp only [hlast, List.getElem?_concat_length]
    rfl

end Answering

namespace Matcher

variable {m m' : Matcher}

/-- Keeping a trace changes nothing but the trace, which is empty if none is kept; neither does it
matter what is in memory.  With an expression, the trace has a line for each step in order.  In each of
them one operand is tested or a part is passed over, so there are as many lines as there are clauses
tested and parts passed over.  Without an expression there is a line for each clause tested, and one
more just if the rule does not match. -/
theorem run_traced (hcontext : m'.context = m.context) (shortCircuit : Bool) (r : Rule)
    (state1 state2 : Option State) :
    (m'.run ⟨shortCircuit, false⟩ r state1 state2).2 =
        (m.run ⟨shortCircuit, true⟩ r state1 state2).2.map Evaluation.untraced ∧
      ∀ ev, (m.run ⟨shortCircuit, true⟩ r state1 state2).2 = .ok ev →
        (∀ text, r.expression = some text → ∃ tree, Expression.read text = .ok tree ∧
          (m.context.answering state1 state2).TracesSteps ⟨shortCircuit, true⟩ r tree ev) ∧
        (r.expression = none →
          (m.context.answering state1 state2).TracesClauses ⟨shortCircuit, true⟩ r ev) := by
  simp only [run_snd, hcontext]
  refine ⟨Answering.evaluation_untraced _ shortCircuit true r, ?_⟩
  intro ev hev
  refine ⟨?_, ?_⟩
  · intro text htext
    obtain ⟨tree, hread, hvalue⟩ := Answering.exists_value_of_evaluation htext hev
    exact ⟨tree, hread, Answering.tracesSteps_of_evaluation rfl hvalue⟩
  · intro hnone
    rw [Answering.evaluation, hnone] at hev
    obtain rfl := Except.ok.inj hev
    exact Answering.tracesClauses_of_evaluation rfl rfl

/-- The first clause does not apply where there is no value, so the second one is not tested. -/
private def failsAtOnce : Rule :=
  ((Rule.named "r" "fails at once").withClause ((Clause.ofOperation .isNull).withLabel "a").inverted)
    |>.withClause ((Clause.ofOperation .isNull).withLabel "b")

/-- A line for the clause that is tested, and one more: for the operand that is passed over, or without
an expression for the failure. -/
theorem run_traced_of_failsAtOnce :
    let m := withSettings .default ⟨0, 0, by decide⟩
    (∃ ev, (m.run ⟨true, true⟩ (failsAtOnce.withExpression "a AND b") none none).2 = .ok ev ∧
        (m.run ⟨true, false⟩ (failsAtOnce.withExpression "a AND b") none none).2 = .ok ev.untraced ∧
        ev.progress.trace.length = 1 + 1 ∧
        ev.progress.trace[0]? = some "a: IsNull => NOT_MATCHED") ∧
      ∃ ev, (m.run ⟨true, true⟩ failsAtOnce none none).2 = .ok ev ∧
        (m.run ⟨true, false⟩ failsAtOnce none none).2 = .ok ev.untraced ∧
        ev.progress.trace.length = 1 + 1 := by
  intro m
  have hcontext : m.context = m.context := rfl
  refine ⟨?_, ?_⟩
  · obtain ⟨huntraced, haccount⟩ := run_traced hcontext true
      (failsAtOnce.withExpression "a AND b") none none
    have hcounts : (m.run ⟨true, true⟩ (failsAtOnce.withExpression "a AND b") none none).2.map
        (fun e => (e.progress.clausesTested, e.progress.shortCircuits)) = .ok (1, 1) := by
      rfl
    cases hev : (m.run ⟨true, true⟩ (failsAtOnce.withExpression "a AND b") none none).2 with
    | error err => simp [hev, Except.map] at hcounts
    | ok ev =>
      obtain ⟨tree, hread, htraces⟩ := (haccount ev hev).1 "a AND b" rfl
      obtain rfl : .join (.operand "a") .and (.operand "b") = tree := Except.ok.inj hread
      have hline := (htraces.tested 0 "a" ⟨0, ((Clause.ofOperation .isNull).withLabel "a").inverted⟩
        [] false rfl).1
      rw [hev] at huntraced hcounts
      obtain ⟨htested, hpassed⟩ := Prod.mk.inj (Except.ok.inj hcounts)
      exact ⟨ev, rfl, huntraced, by rw [htraces.length, htested, hpassed], hline⟩
  · obtain ⟨huntraced, haccount⟩ := run_traced hcontext true failsAtOnce none none
    have hfails : (m.run ⟨true, true⟩ failsAtOnce none none).2.map
        (fun e => (e.matched, e.progress.clausesTested)) = .ok (false, 1) := by
      rfl
    cases hev : (m.run ⟨true, true⟩ failsAtOnce none none).2 with
    | error err => simp [hev, Except.map] at hfails
    | ok ev =>
      have hlength := ((haccount ev hev).2 rfl).length
      rw [hev] at huntraced hfails
      obtain ⟨hmatched, htested⟩ := Prod.mk.inj (Except.ok.inj hfails)
      exact ⟨ev, rfl, huntraced, by simp [hlength, htested, hmatched]⟩

end Matcher

end RuleMatching
