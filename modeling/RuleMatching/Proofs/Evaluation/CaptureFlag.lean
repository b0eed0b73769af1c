import RuleMatching.Proofs.Evaluation.Answering
import RuleMatching.Proofs.Evaluation.Captures
import RuleMatching.Proofs.Evaluation.Verdict
import RuleMatching.Proofs.Judgement.Evidence

/-!
The capture flag of a clause asks for a capture and is not to change anything else.  It does only in
one case: a clause that asks whether the states differ compares them to the end if it captures, and
then may meet a fault behind the first difference.  But for that, neither a clause nor a rule of
built-in clauses depends on the flags: `Matcher.matched_withCaptures`.
-/

set_option autoImplicit false
set_option relaxedAutoImplicit false

namespace RuleMatching

/-- The clause with a given capture flag. -/
def Clause.withCapture (c : Clause) (capture : Bool) : Clause := { c with capture := capture }

/-- The clause in its place with the capture flag given for the place. -/
def ClauseAt.withCaptures (flags : Nat → Bool) (c : ClauseAt) : ClauseAt :=
  ⟨c.index, c.clause.withCapture (flags c.index)⟩

/-- The rule with a capture flag given for the place of each clause. -/
def Rule.withCaptures (flags : Nat → Bool) (r : Rule) : Rule :=
  { r with clauses := r.clauses.mapIdx fun i c => c.withCapture (flags i) }

/-! ### Clauses -/

namespace Context

variable {ctx : Context} {c : Clause} {state1 state2 : Option State}

/-- A clause asks whether its states differ, the first difference is found, and a fault is met when
all of them are asked for. -/
def FaultsBehind (ctx : Context) (c : Clause) (state1 state2 : Option State) : Prop :=
  c.operation = .wasModified ∧ ∃ r ds, ctx.resolveBoth c state1 state2 = .value r ∧
    State.differencesBetween r.1 r.2 1 = .value ds ∧
    State.differencesBetween r.1 r.2 State.unlimited = .fault

/-- The verdict that a clause with a built-in operation comes to, if nothing faults. -/
def verdict (ctx : Context) (c : Clause) (state1 state2 : Option State) : Outcome (WithBot Bool) :=
  (ctx.clauseJudgement c state1 state2).andThen fun v => .value (Judgement.verdict v)

/-- A clause applies just if its verdict is the one that it is not inverted to. -/
theorem applies_eq_true_iff (hbuiltIn : c.operation ≠ .custom) (before : List Capture) :
    (ctx.clauseAnswer c state1 state2 before).applies = true ↔
      ctx.verdict c state1 state2 = .value ((!c.invert : Bool) : WithBot Bool) := by
  rw [verdict]
  cases hv : ctx.clauseJudgement c state1 state2 with
  | fault =>
    have hundecided : ¬ctx.IsDecided c state1 state2 := by simp [IsDecided, hv]
    simp [(applies_of_not_isDecided hbuiltIn before hundecided).1]
  | value v => simp [applies_eq_decide_verdict hbuiltIn before hv]

/-- Only the operation that compares the states looks at the capture flag. -/
theorem ofClause_withCapture {reducers : List Reducer} {now : Instant} {pattern : Option Pattern}
    (hmodified : c.operation ≠ .wasModified) (capture : Bool) :
    Judgement.ofClause reducers now pattern (c.withCapture capture) state1 state2 =
      Judgement.ofClause reducers now pattern c state1 state2 := by
  have hoperation : (c.withCapture capture).operation = c.operation := rfl
  unfold Judgement.ofClause
  rw [hoperation]
  cases hoperation : c.operation with
  | wasModified => exact absurd hoperation hmodified
  | _ => rfl

theorem verdict_of_wasModified (hmodified : c.operation = .wasModified) :
    ctx.verdict c state1 state2 = (ctx.resolveBoth c state1 state2).andThen fun r =>
      (State.differencesBetween r.1 r.2 (if c.capture then State.unlimited else 1)).andThen
        fun ds => .value ((!ds.isEmpty : Bool) : WithBot Bool) := by
  rw [verdict, clauseJudgement]
  cases ctx.resolveBoth c state1 state2 with
  | fault => rfl
  | value r =>
    simp only [Outcome.andThen_value, Judgement.ofClause, hmodified, Judgement.modified]
    cases State.differencesBetween r.1 r.2 (if c.capture then State.unlimited else 1) <;> rfl

/-- Unless a fault is met behind the first difference, a clause that asks whether its states differ
might as well look for just one difference. -/
theorem verdict_of_one_difference (hmodified : c.operation = .wasModified)
    (h : ¬ctx.FaultsBehind c state1 state2) :
    ctx.verdict c state1 state2 = (ctx.resolveBoth c state1 state2).andThen fun r =>
      (State.differencesBetween r.1 r.2 1).andThen
        fun ds => .value ((!ds.isEmpty : Bool) : WithBot Bool) := by
  rw [verdict_of_wasModified hmodified]
  cases hresolve : ctx.resolveBoth c state1 state2 with
  | fault => rfl
  | value r =>
    rw [Outcome.andThen_value, Outcome.andThen_value]
    cases hcapture : c.capture with
    | false => rfl
    | true =>
      rw [if_pos rfl]
      cases hall : State.differencesBetween r.1 r.2 State.unlimited with
      | fault =>
        -- The fault is what is met first: behind a difference it is excluded.
        cases hone : State.differencesBetween r.1 r.2 1 with
        | fault => rfl
        | value ds => exact absurd ⟨hmodified, r, ds, hresolve, hone, hall⟩ h
      | value ds =>
        obtain ⟨ds', hone⟩ := State.exists_firstDifferences_one (by decide) hall
        have hone : State.differencesBetween r.1 r.2 1 = .value ds' := hone
        rw [hone, Outcome.andThen_value, Outcome.andThen_value,
          State.isEmpty_differencesBetween_eq (by decide) (by decide) hall hone]

/-- Unless a fault is met behind the first difference, the verdict of a clause does not depend on its
capture flag. -/
theorem verdict_withCapture (h : ¬ctx.FaultsBehind c state1 state2) (capture : Bool) :
    ctx.verdict (c.withCapture capture) state1 state2 = ctx.verdict c state1 state2 := by
  by_cases hmodified : c.operation = .wasModified
  · rw [verdict_of_one_difference hmodified h]
    exact verdict_of_one_difference (c := c.withCapture capture) hmodified h
  · have hresolve : ctx.resolveBoth (c.withCapture capture) state1 state2 =
        ctx.resolveBoth c state1 state2 := rfl
    rw [verdict, verdict, clauseJudgement, clauseJudgement, hresolve]
    simp only [ofClause_withCapture hmodified]
    rfl

/-- If a fault is met behind the first difference, the clause has no verdict if it captures, and a
true one else. -/
theorem verdict_of_faultsBehind (h : ctx.FaultsBehind c state1 state2) (capture : Bool) :
    ctx.verdict (c.withCapture capture) state1 state2 =
      if capture then .fault else .value ((true : Bool) : WithBot Bool) := by
  obtain ⟨hmodified, r, ds, hresolve, hone, hall⟩ := h
  have hresolve' : ctx.resolveBoth (c.withCapture capture) state1 state2 = .value r := hresolve
  rw [verdict_of_wasModified (c := c.withCapture capture) hmodified, hresolve',
    Outcome.andThen_value]
  cases capture with
  | true =>
    rw [Clause.withCapture, if_pos rfl, hall]
    rfl
  | false =>
    have hds := State.ne_nil_of_differencesBetween_eq_fault hone hall
    rw [Clause.withCapture, if_neg Bool.false_ne_true, hone, Outcome.andThen_value]
    simp [hds]

theorem applies_withCapture (hbuiltIn : c.operation ≠ .custom)
    (h : ¬ctx.FaultsBehind c state1 state2) (capture : Bool) (before : List Capture) :
    (ctx.clauseAnswer (c.withCapture capture) state1 state2 before).applies =
      (ctx.clauseAnswer c state1 state2 before).applies := by
  rw [Bool.eq_iff_iff, applies_eq_true_iff (c := c.withCapture capture) hbuiltIn,
    applies_eq_true_iff hbuiltIn, verdict_withCapture h]
  rfl

/-- A capture of a built-in clause holds the clause, the resolved states, and what the judgement shows,
which is nothing just if the clause asks whether there is nothing. -/
theorem capture_of_builtIn (hbuiltIn : c.operation ≠ .custom) {before : List Capture} {x : Capture}
    (hx : (ctx.clauseAnswer c state1 state2 before).capture = some x) :
    x.clause = c ∧ ctx.resolveBoth c state1 state2 = .value (x.state1, x.state2) ∧
      (x.result = none ↔ c.operation = .isNull) := by
  rcases clauseAnswer_of_builtIn hbuiltIn state1 state2 before with
    ⟨r, v, hresolve, hv, hanswer⟩ | ⟨-, hanswer⟩
  · rw [hanswer, Judgement.answer] at hx
    obtain ⟨-, hx⟩ := Option.ite_none_right_eq_some.mp hx
    obtain rfl := Option.some.inj hx
    refine ⟨rfl, hresolve, ?_⟩
    rw [clauseJudgement, hresolve, Outcome.andThen_value] at hv
    exact Judgement.finding_eq_none_iff hv
  · simp [hanswer, Answer.noMatch] at hx

end Context

/-! ### Rules -/

namespace Rule

variable {r : Rule} {flags : Nat → Bool}

theorem clausesAt_withCaptures (flags : Nat → Bool) (r : Rule) :
    (r.withCaptures flags).clausesAt = r.clausesAt.map (ClauseAt.withCaptures flags) := by
  refine List.ext_getElem? fun i => ?_
  simp only [clausesAt, withCaptures, List.getElem?_map, List.getElem?_zipIdx, List.getElem?_mapIdx,
    Option.map_map, Function.comp_def, ClauseAt.withCaptures, Nat.zero_add]

/-- A label names the clause in the same place. -/
theorem resolve_withCaptures (flags : Nat → Bool) (r : Rule) (l : String) :
    (r.withCaptures flags).resolve l = (r.resolve l).map (ClauseAt.withCaptures flags) := by
  have hlabelled : (r.withCaptures flags).labelled l =
      (r.labelled l).map (ClauseAt.withCaptures flags) := by
    rw [labelled, clausesAt_withCaptures, List.filter_map]
    rfl
  have hplace : (r.withCaptures flags).clauseAtIndex? l =
      (r.clauseAtIndex? l).map (ClauseAt.withCaptures flags) := by
    rw [clauseAtIndex?, clauseAtIndex?, clausesAt_withCaptures]
    cases Numeral.index? l <;> simp
  rw [resolve, resolve, hlabelled, hplace]
  rcases r.labelled l with _ | ⟨c, _ | ⟨d, cs⟩⟩
  · cases r.clauseAtIndex? l <;> rfl
  · rfl
  · rfl

theorem mem_clauses_withCaptures {c : Clause} (hc : c ∈ (r.withCaptures flags).clauses) :
    ∃ d ∈ r.clauses, ∃ capture, c = d.withCapture capture := by
  obtain ⟨i, hi, rfl⟩ := List.mem_mapIdx.mp hc
  exact ⟨r.clauses[i], List.getElem_mem hi, flags i, rfl⟩

end Rule

/-- With built-in clauses, whether all of them apply is what testing one after the other comes to. -/
theorem Context.allValue_snd {ctx : Context} {mode : Mode} {state1 state2 : Option State}
    {cs : List ClauseAt} (hbuiltIn : ∀ c ∈ cs, c.clause.operation ≠ .custom) (p : Progress) :
    ((ctx.answering state1 state2).allValue mode cs p).2 =
      cs.all fun c => (ctx.clauseAnswer c.clause state1 state2 []).applies := by
  induction cs generalizing p with
  | nil => rfl
  | cons c cs ih =>
    obtain ⟨hc, hcs⟩ := List.forall_mem_cons.mp hbuiltIn
    have halone := fun before => @clauseAnswer_eq_of_ignoresCaptures ctx state1 state2 c.clause
      (fun hcustom => absurd hcustom hc) before
    rw [Answering.allValue, List.all_cons]
    simp only [Answering.clauseValue, answering, halone]
    cases (ctx.clauseAnswer c.clause state1 state2 []).applies with
    | false => rfl
    | true => exact ih hcs _

namespace Matcher

variable {m : Matcher} {r : Rule} {state1 state2 : Option State}

theorem exists_run_matched_of_none (hnone : r.expression = none)
    (hbuiltIn : ∀ c ∈ r.clauses, c.operation ≠ .custom) (mode : Mode) :
    ∃ ev, (m.run mode r state1 state2).2 = .ok ev ∧
      ev.matched = r.clausesAt.all fun c =>
        (m.context.clauseAnswer c.clause state1 state2 []).applies := by
  rw [run_snd, Answering.evaluation, hnone]
  exact ⟨_, rfl, Context.allValue_snd (fun c hc => hbuiltIn _ (Rule.clause_mem_clauses hc)) .start⟩

theorem exists_run_matched_of_tree {text : String} {tree : Expression}
    (htext : r.expression = some text) (hread : Expression.read text = .ok tree)
    (hresolve : ∀ l ∈ tree.operands, ∃ c, r.resolve l = .ok c)
    (hbuiltIn : ∀ c ∈ r.clauses, c.operation ≠ .custom) (mode : Mode) :
    ∃ ev, (m.run mode r state1 state2).2 = .ok ev ∧
      ev.matched = tree.value (m.context.appliesAlone r state1 state2) := by
  obtain ⟨ev, hev⟩ := exists_run_eq_ok (m := m) htext hread hresolve mode state1 state2
  obtain ⟨tree', skipped, hread', h⟩ := (run_eq_ok_iff htext).mp hev
  obtain rfl := Except.ok.inj (hread.symm.trans hread')
  exact ⟨ev, hev, h.value_eq hbuiltIn⟩

/-- Capture flags do not change whether a rule of built-in clauses matches. -/
theorem exists_run_withCaptures
    (hclauses : ∀ c ∈ r.clauses, c.operation ≠ .custom ∧ ¬m.context.FaultsBehind c state1 state2)
    (hreads : r.expression = none ∨ ∃ text tree, r.expression = some text ∧
      Expression.read text = .ok tree ∧ ∀ l ∈ tree.operands, ∃ c, r.resolve l = .ok c)
    (flags : Nat → Bool) (mode : Mode) :
    ∃ ev ev', (m.run mode r state1 state2).2 = .ok ev ∧
      (m.run mode (r.withCaptures flags) state1 state2).2 = .ok ev' ∧ ev'.matched = ev.matched := by
  have hbuiltIn : ∀ c ∈ r.clauses, c.operation ≠ .custom := fun c hc => (hclauses c hc).1
  have hbuiltIn' : ∀ c ∈ (r.withCaptures flags).clauses, c.operation ≠ .custom := by
    intro c hc
    obtain ⟨d, hd, capture, rfl⟩ := Rule.mem_clauses_withCaptures hc
    exact hbuiltIn d hd
  have happlies : ∀ c : ClauseAt, c.clause ∈ r.clauses →
      (m.context.clauseAnswer (c.withCaptures flags).clause state1 state2 []).applies =
        (m.context.clauseAnswer c.clause state1 state2 []).applies :=
    fun c hc => Context.applies_withCapture (hbuiltIn _ hc) (hclauses _ hc).2 _ []
  rcases hreads with hnone | ⟨text, tree, htext, hread, hresolve⟩
  · obtain ⟨ev, hev, hmatched⟩ :=
      @exists_run_matched_of_none m r state1 state2 hnone hbuiltIn mode
    obtain ⟨ev', hev', hmatched'⟩ :=
      @exists_run_matched_of_none m (r.withCaptures flags) state1 state2 hnone hbuiltIn' mode
    refine ⟨ev, ev', hev, hev', ?_⟩
    rw [hmatched, hmatched', Rule.clausesAt_withCaptures, List.all_map, Bool.eq_iff_iff,
      List.all_eq_true, List.all_eq_true]
    refine forall₂_congr fun c hc => ?_
    rw [Function.comp_apply, happlies c (Rule.clause_mem_clauses hc)]
  · have hresolve' : ∀ l ∈ tree.operands, ∃ c, (r.withCaptures flags).resolve l = .ok c := by
      intro l hl
      obtain ⟨c, hc⟩ := hresolve l hl
      exact ⟨c.withCaptures flags, by rw [Rule.resolve_withCaptures, hc]; rfl⟩
    have halone : m.context.appliesAlone (r.withCaptures flags) state1 state2 =
        m.context.appliesAlone r state1 state2 := by
      funext l
      rw [Context.appliesAlone, Context.appliesAlone, Rule.resolve_withCaptures]
      cases hl : r.resolve l with
      | error err => rfl
      | ok c => exact happlies c (Rule.mem_clauses_of_resolve_eq_ok hl)
    obtain ⟨ev, hev, hmatched⟩ :=
      @exists_run_matched_of_tree m r state1 state2 text tree htext hread hresolve hbuiltIn mode
    obtain ⟨ev', hev', hmatched'⟩ := @exists_run_matched_of_tree m (r.withCaptures flags) state1
      state2 text tree htext hread hresolve' hbuiltIn' mode
    exact ⟨ev, ev', hev, hev', by rw [hmatched, hmatched', halone]⟩

/-- The capture flag of a clause with a built-in operation does not change whether the clause applies,
inverted or not, unless a fault is met behind the first difference; then the clause does not apply if
it captures, and its states differ if it does not.  There is a capture just if the clause applies and
captures.  It holds the resolved states, and a result unless the clause asks whether there is nothing.
Let no clause of a rule be custom or meet such a fault, and let the rule have no expression, or one
that can be read and whose operands name clauses.  Then whether the rule matches does not depend on the
capture flags of its clauses, with short circuits or without. -/
theorem matched_withCaptures (m : Matcher) (state1 state2 : Option State) :
    (∀ c : Clause, c.operation ≠ .custom →
      (¬m.context.FaultsBehind c state1 state2 → ∀ invert capture,
        m.applies ({ c with invert := invert }.withCapture capture) state1 state2 =
          m.applies { c with invert := invert } state1 state2) ∧
      (m.context.FaultsBehind c state1 state2 → ∀ invert capture,
        m.applies ({ c with invert := invert }.withCapture capture) state1 state2 =
          (!capture && !invert)) ∧
      (m.answerAlone c state1 state2).2.capture.isSome =
        (c.capture && m.applies c state1 state2) ∧
      ∀ x, (m.answerAlone c state1 state2).2.capture = some x → x.clause = c ∧
        m.context.resolveBoth c state1 state2 = .value (x.state1, x.state2) ∧
        (x.result = none ↔ c.operation = .isNull)) ∧
    ∀ r : Rule,
      (∀ c ∈ r.clauses, c.operation ≠ .custom ∧ ¬m.context.FaultsBehind c state1 state2) →
      (r.expression = none ∨ ∃ text tree, r.expression = some text ∧
        Expression.read text = .ok tree ∧ ∀ l ∈ tree.operands, ∃ c, r.resolve l = .ok c) →
      ∀ flags : Nat → Bool,
        (m.isMatch (r.withCaptures flags) state1 state2).2 = (m.isMatch r state1 state2).2 ∧
        ∀ mode : Mode, ∃ ev ev', (m.run mode r state1 state2).2 = .ok ev ∧
          (m.run mode (r.withCaptures flags) state1 state2).2 = .ok ev' ∧
          ev'.matched = ev.matched := by
  refine ⟨?_, ?_⟩
  · intro c hbuiltIn
    simp only [applies_eq, answerAlone_snd]
    refine ⟨?_, ?_, Context.isSome_capture_of_builtIn hbuiltIn [], ?_⟩
    · intro hnofault invert capture
      exact Context.applies_withCapture (c := { c with invert := invert }) hbuiltIn hnofault capture []
    · intro hfault invert capture
      have happlies := @Context.applies_eq_true_iff m.context
        ({ c with invert := invert }.withCapture capture) state1 state2 hbuiltIn []
      have hverdict := Context.verdict_of_faultsBehind (c := { c with invert := invert }) hfault capture
      rw [hverdict] at happlies
      rw [Bool.eq_iff_iff, happlies]
      cases capture <;> cases invert <;> simp [Clause.withCapture]
    · exact fun x hx => Context.capture_of_builtIn hbuiltIn hx
  · intro r hclauses hreads flags
    have hrun := fun mode => exists_run_withCaptures hclauses hreads flags mode
    refine ⟨?_, hrun⟩
    obtain ⟨ev, ev', hev, hev', hmatched⟩ := hrun m.mode
    rw [run_snd] at hev hev'
    have hisFor : (r.withCaptures flags).isFor state1 state2 = r.isFor state1 state2 := rfl
    simp only [isMatch_snd, Context.evaluationOf, hisFor, hev, hev']
    rcases r.isFor state1 state2 with (_ | _) | _
    · rfl
    · exact hmatched
    · rfl

/-- A list with a number in front of an object whose kind cannot be told. -/
private def numberBeforeFault (n : Int64) : State :=
  .ofItems [.int n, .foreign .fault (.value []) (.value "Faulty") (fun _ => .absent) fun _ => .null]

/-- Two lists that differ in front of a fault differ as long as no capture is asked for. -/
theorem applies_ne_withCapture :
    let m := withSettings .default ⟨0, 0, by decide⟩
    let c := Clause.ofOperation .wasModified
    m.applies c (some (numberBeforeFault 1)) (some (numberBeforeFault 2)) = true ∧
      m.applies (c.withCapture true) (some (numberBeforeFault 1)) (some (numberBeforeFault 2)) =
        false := by
  decide +kernel

private def changed : Rule :=
  (((Rule.named "r" "changed").withClause
    ((Clause.ofOperation .wasModified).withLabel "a").capturing).withClause
    ((Clause.ofOperation .isNull).withLabel "b")).withExpression "a OR b"

/-- A rule matches two numbers that differ with and without captures.  Lists that differ in front of
a fault do not differ for a clause that captures. -/
theorem matched_withCaptures_of_numbers :
    let m := withSettings .default ⟨0, 0, by decide⟩
    changed.expression = some "a OR b" ∧
      (m.isMatch (changed.withCaptures fun _ => false) (some (.int 1)) (some (.int 2))).2 = true ∧
      m.context.FaultsBehind (.ofOperation .wasModified) (some (numberBeforeFault 1))
        (some (numberBeforeFault 2)) ∧
      m.applies ((Clause.ofOperation .wasModified).withCapture true) (some (numberBeforeFault 1))
        (some (numberBeforeFault 2)) = false := by
  intro m
  have hclauses : ∀ c ∈ changed.clauses, c.operation ≠ .custom ∧
      ¬m.context.FaultsBehind c (some (.int 1)) (some (.int 2)) := by
    intro c hc
    have hdifferences : State.differencesBetween (some (.int 1)) (some (.int 2)) State.unlimited ≠
        .fault := by
      decide +kernel
    obtain rfl | rfl : c = ((Clause.ofOperation .wasModified).withLabel "a").capturing ∨
        c = (Clause.ofOperation .isNull).withLabel "b" := by
      simpa [changed, Rule.withClause, Rule.withExpression, Rule.named] using hc
    · refine ⟨by decide, ?_⟩
      rintro ⟨-, r, ds, hresolve, -, hall⟩
      obtain rfl := Outcome.value.inj hresolve
      exact hdifferences hall
    · exact ⟨by decide, fun h => absurd h.1 (by decide)⟩
  have hread : Expression.read "a OR b" = .ok (.join (.operand "a") .or (.operand "b")) := by
    rfl
  have hresolve : ∀ l ∈ (Expression.join (.operand "a") .or (.operand "b")).operands,
      ∃ c, changed.resolve l = .ok c := by
    intro l hl
    obtain rfl | rfl : l = "a" ∨ l = "b" := by simpa [Expression.operands] using hl
    · exact ⟨_, rfl⟩
    · exact ⟨_, rfl⟩
  obtain ⟨hmatch, -⟩ := (matched_withCaptures m (some (.int 1)) (some (.int 2))).2 changed hclauses
    (.inr ⟨_, _, rfl, hread, hresolve⟩) fun _ => false
  have hfault : m.context.FaultsBehind (.ofOperation .wasModified) (some (numberBeforeFault 1))
      (some (numberBeforeFault 2)) := by
    refine ⟨rfl, _, _, rfl, rfl, rfl⟩
  obtain ⟨hclauses', -⟩ := matched_withCaptures m (some (numberBeforeFault 1))
    (some (numberBeforeFault 2))
  obtain ⟨-, hcaptured, -⟩ := hclauses' (.ofOperation .wasModified) (by decide)
  refine ⟨rfl, ?_, hfault, hcaptured hfault false true⟩
  rw [hmatch]
  rfl

end Matcher

end RuleMatching
