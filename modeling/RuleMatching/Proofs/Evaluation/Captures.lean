import Mathlib.Data.List.Forall2
import RuleMatching.Proofs.Evaluation.Meaning

/-!
Which captures an evaluation keeps.  An evaluation only adds to the captures that were there before
it, and a group that is false adds none: `captures_extend` and `captures_group_false`.  With built-in
clauses the captures added are those of the operands whose clause captures and applies and that
stand in no false group, in their order: `Evaluates.captures_survivors`.
-/

set_option autoImplicit false
set_option relaxedAutoImplicit false

namespace RuleMatching

namespace Expression

/-- An operand where it stands in an expression: its label, and what is inside each group around
it. -/
structure Occurrence where
  label : String
  groups : List Expression
  deriving DecidableEq, Repr

/-- The operands from left to right, each with the groups that it stands in. -/
def occurrences : Expression → List Occurrence
  | operand l => [⟨l, []⟩]
  | negation e => e.occurrences
  | group e => e.occurrences.map fun o => { o with groups := e :: o.groups }
  | join l _ r => l.occurrences ++ r.occurrences

theorem map_label_occurrences (e : Expression) : e.occurrences.map (·.label) = e.operands := by
  induction e with
  | operand l => rfl
  | negation e ih => exact ih
  | group e ih => simpa [occurrences, operands, Function.comp_def] using ih
  | join l o r ihl ihr => simp [occurrences, operands, ihl, ihr]

/-- The truth value of an expression, given the one of each label. -/
def value (atom : String → Bool) : Expression → Bool
  | operand l => atom l
  | negation e => !e.value atom
  | group e => e.value atom
  | join l o r => o.apply (l.value atom) (r.value atom)

/-- An expression is true just if its statement holds. -/
theorem value_eq_true_iff {atom : String → Bool} {p : String → Prop}
    (hatom : ∀ l, atom l = true ↔ p l) (e : Expression) :
    e.value atom = true ↔ (Tree.ofExpression e).Holds p := by
  induction e with
  | operand l => exact hatom l
  | negation e ih =>
    rw [Tree.ofExpression, Tree.Holds, ← ih, value]
    simp
  | group e ih => exact ih
  | join l o r ihl ihr =>
    rw [Tree.ofExpression, Tree.holds_extend, value]
    exact o.apply_eq_true_iff ihl ihr

end Expression

namespace Context

variable {ctx : Context} {mode : Mode} {rule : Rule} {state1 state2 : Option State}

/-! ### Captures are only added -/

/-- Whatever evaluating an expression comes to, the captures that were there before are still
there, in front. -/
theorem captures_extend (e : Expression) (run : Run ctx.sizeLimit) :
    run.progress.captures <+:
      (ctx.testExpression mode rule state1 state2 e run).1.progress.captures := by
  induction e generalizing run with
  | operand l =>
    rw [testExpression_operand]
    cases rule.resolve l with
    | error err => exact List.prefix_rfl
    | ok c =>
      obtain ⟨memo, hclause⟩ := testClause_eq ctx mode state1 state2 l c run
      simp only [hclause, Progress.addAnswer_captures]
      exact List.prefix_append _ _
  | negation e ih =>
    rw [testExpression_negation]
    exact ih run
  | group e ih =>
    rw [testExpression_group]
    have hinner := ih run
    rcases he : ctx.testExpression mode rule state1 state2 e run with ⟨run₁, err | v⟩
    · rw [he] at hinner
      exact hinner
    · rw [he] at hinner
      cases v with
      | true => exact hinner
      | false =>
        have hcut : run₁.progress.captures.take run.progress.captures.length =
            run.progress.captures := (List.prefix_iff_eq_take.mp hinner).symm
        simp only [Progress.keepCaptures_captures, hcut]
        exact List.prefix_rfl
  | join l o r ihl ihr =>
    rw [testExpression_join]
    have hleft := ihl run
    rcases hl : ctx.testExpression mode rule state1 state2 l run with ⟨run₁, err | left⟩
    · rw [hl] at hleft
      exact hleft
    · rw [hl] at hleft
      cases hskip : skipped? mode rule left o r with
      | some v => simpa only [Progress.addShortCircuit_captures, hskip] using hleft
      | none =>
        simp only [hskip]
        exact hleft.trans (ihr run₁)

/-- A group that is false leaves the captures as they were. -/
theorem captures_group_false {e : Expression} {run : Run ctx.sizeLimit}
    (h : (ctx.testExpression mode rule state1 state2 (.group e) run).2 = .ok false) :
    (ctx.testExpression mode rule state1 state2 (.group e) run).1.progress.captures =
      run.progress.captures := by
  have hinner := @captures_extend ctx mode rule state1 state2 e run
  rw [testExpression_group] at h ⊢
  rcases he : ctx.testExpression mode rule state1 state2 e run with ⟨run₁, err | v⟩
  · simp [he] at h
  · rw [he] at hinner
    cases v with
    | true => simp [he] at h
    | false => exact (List.prefix_iff_eq_take.mp hinner).symm

/-! ### The captures of built-in clauses -/

/-- Whether a label names a clause that applies by itself. -/
def appliesAlone (ctx : Context) (rule : Rule) (state1 state2 : Option State) (l : String) : Bool :=
  match rule.resolve l with
  | .ok c => (ctx.clauseAnswer c.clause state1 state2 []).applies
  | .error _ => false

/-- Whether a label names a clause that captures. -/
def namesCapturing (rule : Rule) (l : String) : Bool :=
  match rule.resolve l with
  | .ok c => c.clause.capture
  | .error _ => false

/-- Whether an operand has a capture to give that is kept: its clause captures and applies, and all
groups around it are true. -/
def survives (ctx : Context) (rule : Rule) (state1 state2 : Option State)
    (o : Expression.Occurrence) : Bool :=
  namesCapturing rule o.label && ctx.appliesAlone rule state1 state2 o.label &&
    o.groups.all fun g => g.value (ctx.appliesAlone rule state1 state2)

/-- A capture is the one that the clause of an operand gives by itself. -/
def GivesCapture (ctx : Context) (rule : Rule) (state1 state2 : Option State)
    (o : Expression.Occurrence) (x : PlacedCapture) : Prop :=
  ∃ c, rule.resolve o.label = .ok c ∧ x.index = c.index ∧
    (ctx.clauseAnswer c.clause state1 state2 []).capture = some x.capture

/-- The captures of the operands of an expression that are kept, in the order of the operands. -/
def KeepsSurvivors (ctx : Context) (rule : Rule) (state1 state2 : Option State) (e : Expression)
    (kept : List PlacedCapture) : Prop :=
  List.Forall₂ (ctx.GivesCapture rule state1 state2)
    (e.occurrences.filter (ctx.survives rule state1 state2)) kept

theorem appliesAlone_eq_true_iff {l : String} :
    ctx.appliesAlone rule state1 state2 l = true ↔ ctx.Applies rule state1 state2 l := by
  rw [appliesAlone, Applies]
  cases rule.resolve l <;> simp

/-- A built-in clause gives a capture just if it captures and applies. -/
theorem isSome_capture_of_builtIn {c : Clause} (hbuiltIn : c.operation ≠ .custom)
    (before : List Capture) :
    (ctx.clauseAnswer c state1 state2 before).capture.isSome =
      (c.capture && (ctx.clauseAnswer c state1 state2 before).applies) := by
  rcases @clauseAnswer_of_builtIn ctx c hbuiltIn state1 state2 before with
    ⟨r, v, -, -, hanswer⟩ | ⟨-, hanswer⟩
  · rw [hanswer]
    simp only [Judgement.answer]
    cases v.holds != c.invert <;> cases c.capture <;> rfl
  · rw [hanswer]
    exact (Bool.and_false _).symm

theorem ignoresCaptures_of_builtIn (hbuiltIn : ∀ c ∈ rule.clauses, c.operation ≠ .custom) :
    ∀ c ∈ rule.clauses, c.operation = .custom → ctx.IgnoresCaptures c :=
  fun c hc hcustom => absurd hcustom (hbuiltIn c hc)

variable {e : Expression} {p p' : Progress} {skipped : List Expression} {v : Bool}

/-- With built-in clauses, what an expression is evaluated to is its truth value. -/
theorem Evaluates.value_eq (hbuiltIn : ∀ c ∈ rule.clauses, c.operation ≠ .custom)
    (h : ctx.Evaluates mode rule state1 state2 e p skipped p' v) :
    v = e.value (ctx.appliesAlone rule state1 state2) := by
  rw [Bool.eq_iff_iff, h.value_iff_holds (ignoresCaptures_of_builtIn hbuiltIn),
    Expression.value_eq_true_iff fun _ => appliesAlone_eq_true_iff]

/-- No operand of a part that may not capture has a capture to give. -/
theorem filter_survives_eq_nil (hcapture : rule.mayCaptureIn e = false) :
    e.occurrences.filter (ctx.survives rule state1 state2) = [] := by
  rw [List.filter_eq_nil_iff]
  intro o ho hsurvives
  have hoperand : o.label ∈ e.operands := by
    rw [← Expression.map_label_occurrences]
    exact List.mem_map_of_mem ho
  simp only [survives, Bool.and_eq_true] at hsurvives
  obtain ⟨⟨hnames, -⟩, -⟩ := hsurvives
  rw [Rule.mayCaptureIn, List.any_eq_false] at hcapture
  exact hcapture o.label hoperand hnames

/-- The operands inside a true group survive just as they would without it. -/
theorem keepsSurvivors_group {kept : List PlacedCapture}
    (htrue : e.value (ctx.appliesAlone rule state1 state2) = true)
    (h : ctx.KeepsSurvivors rule state1 state2 e kept) :
    ctx.KeepsSurvivors rule state1 state2 (.group e) kept := by
  have hsame : ctx.survives rule state1 state2 ∘
      (fun o : Expression.Occurrence => { o with groups := e :: o.groups }) =
        ctx.survives rule state1 state2 := by
    funext o
    simp [survives, htrue]
  rw [KeepsSurvivors, Expression.occurrences, List.filter_map, hsame, List.forall₂_map_left_iff]
  exact h

/-- Inside a false group no operand survives. -/
theorem keepsSurvivors_group_false
    (hfalse : e.value (ctx.appliesAlone rule state1 state2) = false) :
    ctx.KeepsSurvivors rule state1 state2 (.group e) [] := by
  have hnone : (Expression.group e).occurrences.filter (ctx.survives rule state1 state2) = [] := by
    rw [List.filter_eq_nil_iff]
    intro o ho
    obtain ⟨o', -, rfl⟩ := List.mem_map.mp ho
    simp [survives, hfalse]
  rw [KeepsSurvivors, hnone]
  exact .nil

/-- With built-in clauses an evaluation adds just the captures of the operands that survive, in the
order of the operands. -/
theorem Evaluates.captures_survivors (hbuiltIn : ∀ c ∈ rule.clauses, c.operation ≠ .custom)
    (h : ctx.Evaluates mode rule state1 state2 e p skipped p' v) :
    ∃ kept, p'.captures = p.captures ++ kept ∧ ctx.KeepsSurvivors rule state1 state2 e kept := by
  induction h with
  | @operand l c p a hresolve ha =>
    have hc := hbuiltIn c.clause (Rule.mem_clauses_of_resolve_eq_ok hresolve)
    rw [clauseAnswer_eq_of_ignoresCaptures fun hcustom => absurd hcustom hc] at ha
    have hsome := @isSome_capture_of_builtIn ctx state1 state2 c.clause hc []
    have hsurvives : ctx.survives rule state1 state2 ⟨l, []⟩ =
        (c.clause.capture && a.applies) := by
      simp [survives, namesCapturing, appliesAlone, hresolve, ha]
    rw [ha, ← hsurvives] at hsome
    refine ⟨_, Progress.addAnswer_captures .., ?_⟩
    rw [KeepsSurvivors, Expression.occurrences, List.filter_singleton]
    cases hcapture : a.capture with
    | none =>
      rw [hcapture] at hsome
      simp [← hsome]
    | some x =>
      rw [hcapture] at hsome
      have happlies : a.applies = true := by
        have hboth : (c.clause.capture && a.applies) = true := hsurvives ▸ hsome.symm
        exact (Bool.and_eq_true_iff.mp hboth).2
      have hgives : ctx.GivesCapture rule state1 state2 ⟨l, []⟩ ⟨c.index, x⟩ :=
        ⟨c, hresolve, rfl, by rw [ha, hcapture]⟩
      simpa [← hsome, happlies] using hgives
  | negation _ ih => exact ih
  | groupTrue h ih =>
    obtain ⟨kept, hkept, hsurvivors⟩ := ih
    exact ⟨kept, hkept, keepsSurvivors_group (h.value_eq hbuiltIn).symm hsurvivors⟩
  | groupFalse h ih =>
    -- What was added inside the group lies behind the mark, and is cut off.
    obtain ⟨kept, hkept, -⟩ := ih
    refine ⟨[], ?_, keepsSurvivors_group_false (h.value_eq hbuiltIn).symm⟩
    rw [Progress.keepCaptures_captures, hkept, List.take_left, List.append_nil]
  | joinSkipped _ hskip ih =>
    obtain ⟨kept, hkept, hsurvivors⟩ := ih
    obtain ⟨-, hcapture, -⟩ := skipped?_eq_some_iff.mp hskip
    refine ⟨kept, by rw [Progress.addShortCircuit_captures, hkept], ?_⟩
    rw [KeepsSurvivors, Expression.occurrences, List.filter_append,
      filter_survives_eq_nil hcapture, List.append_nil]
    exact hsurvivors
  | joinTested _ _ _ ihl ihr =>
    obtain ⟨left, hleft, hsurvivorsl⟩ := ihl
    obtain ⟨right, hright, hsurvivorsr⟩ := ihr
    refine ⟨left ++ right, by rw [hright, hleft, List.append_assoc], ?_⟩
    rw [KeepsSurvivors, Expression.occurrences, List.filter_append]
    exact List.rel_append hsurvivorsl hsurvivorsr

end Context

namespace Matcher

/-- Let the expression of a rule be read as a tree, let all operands of it name clauses, and let all
clauses be built in.  Then the captures of the rule are those of just the operands whose clause
captures and applies and that stand in no false group, in the order of the operands, whatever is
passed over or traced; and a part of the tree is evaluated to its truth value.  With any clauses, and
whether something goes wrong or not, an evaluation keeps the captures that were there before it in
front of its own, and a group that is false leaves them as they were. -/
theorem run_captures_survivors (m : Matcher) (r : Rule) :
    (∀ text tree, r.expression = some text → Expression.read text = .ok tree →
      (∀ c ∈ r.clauses, c.operation ≠ .custom) →
      (∀ l ∈ tree.operands, ∃ c, r.resolve l = .ok c) →
      ∀ (mode : Mode) (state1 state2 : Option State),
        (∃ ev, (m.run mode r state1 state2).2 = .ok ev ∧
          m.context.KeepsSurvivors r state1 state2 tree ev.progress.captures) ∧
        ∀ part run, (∀ l ∈ part.operands, l ∈ tree.operands) →
          (m.context.testExpression mode r state1 state2 part run).2 =
            .ok (part.value (m.context.appliesAlone r state1 state2))) ∧
      ∀ (mode : Mode) (state1 state2 : Option State) (part : Expression)
        (run : Context.Run m.context.sizeLimit),
        run.progress.captures <+:
          (m.context.testExpression mode r state1 state2 part run).1.progress.captures ∧
        ∀ inner, part = .group inner →
          (m.context.testExpression mode r state1 state2 part run).2 = .ok false →
          (m.context.testExpression mode r state1 state2 part run).1.progress.captures =
            run.progress.captures := by
  refine ⟨?_, ?_⟩
  · intro text tree htext hread hbuiltIn hresolve mode state1 state2
    refine ⟨?_, ?_⟩
    · obtain ⟨ev, hev⟩ := exists_run_eq_ok (m := m) htext hread hresolve mode state1 state2
      obtain ⟨tree', skipped, hread', h⟩ := (run_eq_ok_iff htext).mp hev
      obtain rfl := Except.ok.inj (hread.symm.trans hread')
      obtain ⟨kept, hkept, hsurvivors⟩ := h.captures_survivors hbuiltIn
      obtain rfl : ev.progress.captures = kept := hkept.trans (List.nil_append kept)
      exact ⟨ev, hev, hsurvivors⟩
    · intro part run hpart
      obtain ⟨run', v, he⟩ := @Context.exists_testExpression_eq_ok m.context r part
        (fun l hl => hresolve l (hpart l hl)) mode state1 state2 run
      obtain ⟨skipped, h⟩ := Context.evaluates_of_testExpression he
      rw [he, h.value_eq hbuiltIn]
  · intro mode state1 state2 part run
    refine ⟨Context.captures_extend part run, ?_⟩
    rintro inner rfl hfalse
    exact Context.captures_group_false hfalse

private def retried : Rule :=
  ((((Rule.named "r" "retried").withClause
    ((Clause.ofOperation .isNull).withLabel "a").capturing).withClause
    ((Clause.ofOperation .isNull).withLabel "b").inverted).withClause
    ((Clause.ofOperation .isNull).withLabel "c").capturing).withExpression "(a AND b) OR c AND a"

/-- What is captured in a false group is lost, and captured again outside of it. -/
theorem run_captures_of_retried :
    let m := withSettings .default ⟨0, 0, by decide⟩
    retried.expression = some "(a AND b) OR c AND a" ∧
      ∃ ev, (m.run ⟨true, false⟩ retried none none).2 = .ok ev ∧
        ev.progress.captures.map (·.index) = [2, 0] := by
  intro m
  obtain ⟨tree, htree⟩ : ∃ tree : Expression, tree =
    .join (.join (.group (.join (.operand "a") .and (.operand "b"))) .or (.operand "c")) .and
      (.operand "a") := ⟨_, rfl⟩
  have hread : Expression.read "(a AND b) OR c AND a" = .ok tree := by
    rw [htree]
    rfl
  have hbuiltIn : ∀ c ∈ retried.clauses, c.operation ≠ .custom := by decide
  have hresolve : ∀ l ∈ tree.operands, ∃ c, retried.resolve l = .ok c := by
    intro l hl
    rw [htree] at hl
    obtain rfl | rfl | rfl : l = "a" ∨ l = "b" ∨ l = "c" := by
      simp only [Expression.operands, List.mem_append, List.mem_singleton] at hl
      tauto
    all_goals exact ⟨_, rfl⟩
  obtain ⟨ev, hev, hsurvivors⟩ := ((run_captures_survivors m retried).1 _ tree rfl hread hbuiltIn
    hresolve ⟨true, false⟩ none none).1
  have hfilter : tree.occurrences.filter (m.context.survives retried none none) =
      [⟨"c", []⟩, ⟨"a", []⟩] := by
    rw [htree]
    rfl
  rw [Context.KeepsSurvivors, hfilter] at hsurvivors
  refine ⟨rfl, ev, hev, ?_⟩
  generalize ev.progress.captures = kept at hsurvivors
  rcases hsurvivors with _ | ⟨⟨c, hc, hindexc, -⟩, _ | ⟨⟨a, ha, hindexa, -⟩, _ | _⟩⟩
  obtain rfl := Except.ok.inj hc
  obtain rfl := Except.ok.inj ha
  rw [List.map_cons, List.map_singleton, hindexc, hindexa]

end Matcher

end RuleMatching
