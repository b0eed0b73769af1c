import RuleMatching.Proofs.Evaluation.Run
import RuleMatching.Proofs.Expression.Tree

/-!
What expressions mean.  A tree is a statement about its operands, in which the operators are the
usual connectives and a chain is read from left to right.  Evaluating an expression comes to whether
its statement holds, whatever is passed over: `Evaluates.value_iff_holds`.
-/

set_option autoImplicit false
set_option relaxedAutoImplicit false

namespace RuleMatching

/-- What an operator makes of two statements; NOT looks at the first alone. -/
def BoolOperator.Connects : BoolOperator → Prop → Prop → Prop
  | and, p, q => p ∧ q
  | or, p, q => p ∨ q
  | xor, p, q => ¬(p ↔ q)
  | nand, p, q => ¬(p ∧ q)
  | nor, p, q => ¬(p ∨ q)
  | not, p, _ => ¬p

/-- The truth table of an operator is the one of the connective. -/
theorem BoolOperator.apply_eq_true_iff (o : BoolOperator) {a b : Bool} {p q : Prop}
    (hp : a = true ↔ p) (hq : b = true ↔ q) : o.apply a b = true ↔ o.Connects p q := by
  rw [← hp, ← hq]
  cases o <;> cases a <;> cases b <;> simp [apply, Connects]

namespace Expression.Tree

mutual

/-- What a tree says, given what each label says. -/
def Holds (atom : String → Prop) : Tree → Prop
  | operand l => atom l
  | negation t => ¬t.Holds atom
  | group t => t.Holds atom
  | chain first rest => LinksHold atom (first.Holds atom) rest

/-- What a chain says whose operands so far come to a statement. -/
def LinksHold (atom : String → Prop) (sofar : Prop) : List Link → Prop
  | [] => sofar
  | (o, t) :: rest => LinksHold atom (o.Connects sofar (t.Holds atom)) rest

end

/-- A chain is folded from left to right. -/
theorem holds_chain (atom : String → Prop) (first : Tree) (rest : List Link) :
    (chain first rest).Holds atom =
      rest.foldl (fun sofar link => link.1.Connects sofar (link.2.Holds atom))
        (first.Holds atom) := by
  have hlinks : ∀ sofar, LinksHold atom sofar rest =
      rest.foldl (fun sofar link => link.1.Connects sofar (link.2.Holds atom)) sofar := by
    induction rest with
    | nil =>
      intro sofar
      rw [LinksHold, List.foldl_nil]
    | cons link rest ih =>
      intro sofar
      obtain ⟨o, t⟩ := link
      rw [LinksHold, ih, List.foldl_cons]
  rw [Holds, hlinks]

/-- An operand added to a chain is connected to all before it. -/
theorem holds_extend (atom : String → Prop) (t : Tree) (o : BoolOperator) (u : Tree) :
    (t.extend o u).Holds atom = o.Connects (t.Holds atom) (u.Holds atom) := by
  cases t with
  | chain first rest =>
    rw [extend, holds_chain, holds_chain, List.foldl_append, List.foldl_cons, List.foldl_nil]
  | _ => exact holds_chain atom _ [(o, u)]

end Expression.Tree

namespace Context

/-- The custom operation for a clause does not depend on the captures that came before. -/
def IgnoresCaptures (ctx : Context) (c : Clause) : Prop :=
  ∀ (state1 state2 : Option State) (before : List Capture),
    ctx.customAnswer c state1 state2 before = ctx.customAnswer c state1 state2 []

variable {ctx : Context} {mode : Mode} {rule : Rule} {state1 state2 : Option State}

/-- Only a custom operation may depend on the captures that came before. -/
theorem clauseAnswer_eq_of_ignoresCaptures {c : Clause}
    (hcustom : c.operation = .custom → ctx.IgnoresCaptures c) (before : List Capture) :
    ctx.clauseAnswer c state1 state2 before = ctx.clauseAnswer c state1 state2 [] := by
  rw [clauseAnswer, clauseAnswer, answerClause_eq, answerClause_eq]
  cases ctx.resolveBoth c state1 state2 with
  | fault => rfl
  | value resolved =>
    obtain ⟨r1, r2⟩ := resolved
    by_cases hc : c.operation = .custom
    · simp only [answer, hc, if_true, hcustom hc r1 r2 before]
    · simp only [answer, hc, if_false]

/-- A label names a clause that applies by itself. -/
def Applies (ctx : Context) (rule : Rule) (state1 state2 : Option State) (l : String) : Prop :=
  ∃ c, rule.resolve l = .ok c ∧ (ctx.clauseAnswer c.clause state1 state2 []).applies = true

/-- What evaluating an expression comes to is whether its statement holds. -/
theorem Evaluates.value_iff_holds
    (hcustom : ∀ c ∈ rule.clauses, c.operation = .custom → ctx.IgnoresCaptures c) {e : Expression}
    {p p' : Progress} {skipped : List Expression} {v : Bool}
    (h : ctx.Evaluates mode rule state1 state2 e p skipped p' v) :
    v = true ↔ (Expression.Tree.ofExpression e).Holds (ctx.Applies rule state1 state2) := by
  classical
  induction h with
  | @operand l c p a hresolve ha =>
    have halone : ctx.clauseAnswer c.clause state1 state2 [] = a := by
      rw [← clauseAnswer_eq_of_ignoresCaptures
        (hcustom c.clause (Rule.mem_clauses_of_resolve_eq_ok hresolve)), ha]
    simp [Expression.Tree.ofExpression, Expression.Tree.Holds, Applies, hresolve, halone]
  | negation _ ih =>
    rw [Expression.Tree.ofExpression, Expression.Tree.Holds, ← ih]
    simp
  | groupTrue _ ih =>
    rw [Expression.Tree.ofExpression, Expression.Tree.Holds]
    exact ih
  | groupFalse _ ih =>
    rw [Expression.Tree.ofExpression, Expression.Tree.Holds]
    exact ih
  | @joinSkipped l r o p p' _ left v _ hskip ih =>
    -- The value is settled, whether what is passed over holds or not.
    obtain ⟨-, -, hdecided⟩ := skipped?_eq_some_iff.mp hskip
    have hvalue := BoolOperator.apply_of_decided? hdecided
      (decide ((Expression.Tree.ofExpression r).Holds (ctx.Applies rule state1 state2)))
    rw [Expression.Tree.ofExpression, Expression.Tree.holds_extend, ← hvalue]
    exact o.apply_eq_true_iff ih decide_eq_true_iff
  | @joinTested l r o p p' p'' _ _ left right _ _ _ ihl ihr =>
    rw [Expression.Tree.ofExpression, Expression.Tree.holds_extend]
    exact o.apply_eq_true_iff ihl ihr

end Context

namespace Matcher

variable {m : Matcher} {r : Rule} {text : String}

theorem answerAlone_snd (m : Matcher) (c : Clause) (state1 state2 : Option State) :
    (m.answerAlone c state1 state2).2 = m.context.clauseAnswer c state1 state2 [] := by
  rw [Context.clauseAnswer, Context.answerClause_snd m.context .empty m.patterns]
  rfl

/-- Let the expression of a rule be read as a tree.  If all operands name clauses, and the custom
ones among the clauses do not depend on captures, then the rule matches just if the statement of the
tree holds, where an operand says that its clause applies by itself; and that whatever is passed over
or traced.  If some operand names no clause, the first such operand is what goes wrong without short
circuits, in whatever states. -/
theorem run_matched_iff_holds (htext : r.expression = some text) {tree : Expression}
    (hread : Expression.read text = .ok tree) :
    ((∀ l ∈ tree.operands, ∃ c, r.resolve l = .ok c) →
      (∀ c ∈ r.clauses, c.operation = .custom → m.context.IgnoresCaptures c) →
      ∀ (mode : Mode) (state1 state2 : Option State),
        ∃ ev, (m.run mode r state1 state2).2 = .ok ev ∧
          (ev.matched = true ↔ (Expression.Tree.ofExpression tree).Holds fun l =>
            ∃ c, r.resolve l = .ok c ∧
              (m.answerAlone c.clause state1 state2).2.applies = true)) ∧
      ∀ before l after err, tree.operands = before ++ l :: after →
        (∀ k ∈ before, ∃ c, r.resolve k = .ok c) → r.resolve l = .error err →
        ∀ (traced : Bool) (state1 state2 : Option State),
          (m.run ⟨false, traced⟩ r state1 state2).2 = .error err := by
  constructor
  · intro hresolve hcustom mode state1 state2
    obtain ⟨ev, hev⟩ := exists_run_eq_ok (m := m) htext hread hresolve mode state1 state2
    obtain ⟨tree', skipped, hread', h⟩ := (run_eq_ok_iff htext).mp hev
    obtain rfl := Except.ok.inj (hread.symm.trans hread')
    refine ⟨ev, hev, ?_⟩
    simp only [answerAlone_snd]
    exact h.value_iff_holds hcustom
  · intro before l after err hoperands hbefore hl traced state1 state2
    refine (run_eq_error_iff htext rfl).mpr (.inr ⟨tree, hread, ?_⟩)
    have hnone : before.findSome? r.resolutionError? = none := by
      rw [List.findSome?_eq_none_iff]
      intro k hk
      obtain ⟨c, hc⟩ := hbefore k hk
      simp [Rule.resolutionError?, hc]
    rw [hoperands, List.findSome?_append, hnone, Option.none_or, List.findSome?_cons,
      Rule.resolutionError?_eq_some_iff.mpr hl]

private def exclusive : Rule :=
  ((Rule.named "r" "exclusive").withClause
    ((Clause.ofOperation .isNull).withLabel "a")).withExpression "NOT a XOR a"

/-- Just one of a statement and its negation holds. -/
theorem run_matched_of_exclusive :
    let m := withSettings .default ⟨0, 0, by decide⟩
    exclusive.expression = some "NOT a XOR a" ∧
      ∃ ev, (m.run ⟨true, true⟩ exclusive none none).2 = .ok ev ∧ ev.matched = true := by
  intro m
  have hread : Expression.read "NOT a XOR a" =
      .ok (.join (.negation (.operand "a")) .xor (.operand "a")) := by
    rfl
  have hresolve : ∀ l ∈ (Expression.join (.negation (.operand "a")) .xor (.operand "a")).operands,
      ∃ c, exclusive.resolve l = .ok c := by
    intro l hl
    obtain rfl : l = "a" := by simpa [Expression.operands] using hl
    exact ⟨⟨0, (Clause.ofOperation .isNull).withLabel "a"⟩, rfl⟩
  have hcustom : ∀ c ∈ exclusive.clauses, c.operation = .custom → m.context.IgnoresCaptures c := by
    intro c hc hoperation
    obtain rfl := List.mem_singleton.mp hc
    simp [Clause.ofOperation, Clause.withLabel] at hoperation
  obtain ⟨ev, hev, hmatched⟩ :=
    (run_matched_iff_holds (m := m) rfl hread).1 hresolve hcustom ⟨true, true⟩ none none
  refine ⟨rfl, ev, hev, hmatched.mpr ?_⟩
  rw [Expression.Tree.ofExpression, Expression.Tree.holds_extend]
  intro h
  exact iff_not_self h.symm

end Matcher

end RuleMatching
