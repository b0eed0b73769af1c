import RuleMatching.Proofs.Evaluation.Run

/-!
The order of the clauses of a rule.  An expression calls clauses by their labels, so two rules in which
the labels name the same clauses are evaluated alike, wherever the clauses stand:
`Evaluates.alike`.  Putting clauses in another order changes nothing about a label that just one of
them has, not even if it is a number, so it has no effect if all operands are such labels:
`Matcher.run_of_perm`.
-/

set_option autoImplicit false
set_option relaxedAutoImplicit false

namespace RuleMatching

/-! ### Labels -/

namespace Rule

variable {r r' : Rule} {l : String}

/-- The rule with other clauses. -/
def withClauses (r : Rule) (clauses : List Clause) : Rule := { r with clauses := clauses }

/-- A label names the same clause in two rules. -/
def NameAlike (r r' : Rule) (l : String) : Prop :=
  ∃ c c', r.resolve l = .ok c ∧ r'.resolve l = .ok c' ∧ c'.clause = c.clause

/-- A label that just one clause has names this clause. -/
theorem exists_resolve_of_count_eq_one (h : (r.clauses.map (·.label)).count (some l) = 1) :
    ∃ c, r.resolve l = .ok c ∧ (r.clauses.filter fun c => c.label == some l) = [c.clause] := by
  rw [count_label] at h
  obtain ⟨c, hc⟩ := List.length_eq_one_iff.mp h
  refine ⟨c, by rw [resolve, hc], ?_⟩
  rw [← map_clause_labelled, hc, List.map_singleton]

/-- Another order of the clauses does not change which clause has a label. -/
theorem nameAlike_of_perm {clauses : List Clause} (hperm : clauses.Perm r.clauses)
    (h : (r.clauses.map (·.label)).count (some l) = 1) :
    NameAlike r (r.withClauses clauses) l := by
  have h' : ((r.withClauses clauses).clauses.map (·.label)).count (some l) = 1 := by
    rw [← h]
    exact (hperm.map _).count_eq _
  obtain ⟨c, hresolve, hc⟩ := exists_resolve_of_count_eq_one h
  obtain ⟨c', hresolve', hc'⟩ := exists_resolve_of_count_eq_one h'
  have hlabelled := hperm.filter fun c => c.label == some l
  have hsame : [c'.clause].Perm [c.clause] := hc' ▸ hc ▸ hlabelled
  exact ⟨c, c', hresolve, hresolve', List.singleton_perm_singleton.mp hsame⟩

theorem mayCaptureIn_of_nameAlike {e : Expression} (h : ∀ l ∈ e.operands, NameAlike r r' l) :
    r'.mayCaptureIn e = r.mayCaptureIn e := by
  rw [Bool.eq_iff_iff, mayCaptureIn, mayCaptureIn, List.any_eq_true, List.any_eq_true]
  refine exists_congr fun l => and_congr_right fun hl => ?_
  obtain ⟨c, c', hresolve, hresolve', hclause⟩ := h l hl
  rw [hresolve, hresolve']
  simp only [hclause]

end Rule

/-! ### Progress -/

/-- A capture with the clause in whose place it was made. -/
def PlacedCapture.withClause (r : Rule) (x : PlacedCapture) : Option Clause × Capture :=
  (r.clauses[x.index]?, x.capture)

namespace Progress

/-- The evaluations of two rules have come equally far, but for the places of the clauses. -/
structure Alike (r r' : Rule) (p p' : Progress) : Prop where
  captures : p'.captures.map (·.withClause r') = p.captures.map (·.withClause r)
  clausesTested : p'.clausesTested = p.clausesTested
  shortCircuits : p'.shortCircuits = p.shortCircuits
  trace : p'.trace = p.trace

variable {r r' : Rule} {p p' : Progress} {traced : Bool}

theorem Alike.map_capture (h : Alike r r' p p') :
    p'.captures.map (·.capture) = p.captures.map (·.capture) := by
  have hcaptures := congrArg (List.map Prod.snd) h.captures
  simpa only [List.map_map, Function.comp_def, PlacedCapture.withClause] using hcaptures

theorem Alike.length_captures (h : Alike r r' p p') :
    p'.captures.length = p.captures.length := by
  simpa using congrArg List.length h.captures

theorem Alike.addAnswer (h : Alike r r' p p') {c c' : ClauseAt} (hc : c ∈ r.clausesAt)
    (hc' : c' ∈ r'.clausesAt) (hclause : c'.clause = c.clause) (name : String) (a : Answer) :
    Alike r r' (p.addAnswer traced name c a) (p'.addAnswer traced name c' a) where
  captures := by
    have hplace : r'.clauses[c'.index]? = r.clauses[c.index]? := by
      rw [Rule.mem_clausesAt_iff.mp hc', Rule.mem_clausesAt_iff.mp hc, hclause]
    rw [addAnswer_captures, addAnswer_captures, List.map_append, List.map_append, h.captures]
    cases a.applies <;> simp [PlacedCapture.withClause, Function.comp_def, hplace]
  clausesTested := by simp [h.clausesTested]
  shortCircuits := by simp [h.shortCircuits]
  trace := by simp [h.trace, hclause]

theorem Alike.addShortCircuit (h : Alike r r' p p') (operator : BoolOperator) (left value : Bool) :
    Alike r r' (p.addShortCircuit traced operator left value)
      (p'.addShortCircuit traced operator left value) where
  captures := by simp [h.captures]
  clausesTested := by simp [h.clausesTested]
  shortCircuits := by simp [h.shortCircuits]
  trace := by simp [h.trace]

theorem Alike.keepCaptures (h : Alike r r' p p') (count : Nat) :
    Alike r r' (p.keepCaptures count) (p'.keepCaptures count) where
  captures := by simp only [keepCaptures_captures, List.map_take, h.captures]
  clausesTested := h.clausesTested
  shortCircuits := h.shortCircuits
  trace := h.trace

/-- Nothing was done yet. -/
theorem Alike.start (r r' : Rule) : Alike r r' .start .start := ⟨rfl, rfl, rfl, rfl⟩

end Progress

/-! ### Evaluation -/

theorem Context.skipped?_of_nameAlike {r r' : Rule} {mode : Mode} {left : Bool} {o : BoolOperator}
    {e : Expression} (h : ∀ l ∈ e.operands, Rule.NameAlike r r' l) :
    skipped? mode r' left o e = skipped? mode r left o e := by
  rw [skipped?, skipped?, Rule.mayCaptureIn_of_nameAlike h]

namespace Context

variable {ctx : Context} {mode : Mode} {r r' : Rule} {state1 state2 : Option State} {e : Expression}
  {p p' q : Progress} {skipped : List Expression} {v : Bool}

/-- Rules in which the operands of an expression name the same clauses evaluate it alike. -/
theorem Evaluates.alike (h : ctx.Evaluates mode r state1 state2 e p skipped q v)
    (hnames : ∀ l ∈ e.operands, Rule.NameAlike r r' l) (hp : Progress.Alike r r' p p') :
    ∃ q', ctx.Evaluates mode r' state1 state2 e p' skipped q' v ∧ Progress.Alike r r' q q' := by
  induction h generalizing p' with
  | @operand l c p a hresolve ha =>
    obtain ⟨d, c', hd, hresolve', hclause⟩ := hnames l (List.mem_singleton_self l)
    obtain rfl := Except.ok.inj (hresolve.symm.trans hd)
    -- The same clause is asked after the same captures, so it gives the same answer.
    rw [← hclause, ← hp.map_capture] at ha
    exact ⟨_, .operand hresolve' ha, hp.addAnswer (Rule.mem_clausesAt_of_resolve_eq_ok hresolve)
      (Rule.mem_clausesAt_of_resolve_eq_ok hresolve') hclause l a⟩
  | negation _ ih =>
    obtain ⟨q', h', hq⟩ := ih hnames hp
    exact ⟨q', .negation h', hq⟩
  | groupTrue _ ih =>
    obtain ⟨q', h', hq⟩ := ih hnames hp
    exact ⟨q', .groupTrue h', hq⟩
  | groupFalse _ ih =>
    obtain ⟨q', h', hq⟩ := ih hnames hp
    refine ⟨_, .groupFalse h', ?_⟩
    rw [hp.length_captures]
    exact hq.keepCaptures _
  | @joinSkipped l e o p q skipped left v _ hskip ih =>
    obtain ⟨hl, he⟩ := List.forall_mem_append.mp hnames
    obtain ⟨q', h', hq⟩ := ih hl hp
    rw [← skipped?_of_nameAlike he] at hskip
    exact ⟨_, .joinSkipped h' hskip, hq.addShortCircuit o left v⟩
  | joinTested _ hskip _ ihl ihr =>
    obtain ⟨hl, he⟩ := List.forall_mem_append.mp hnames
    obtain ⟨q', hl', hq⟩ := ihl hl hp
    obtain ⟨q'', he', hq'⟩ := ihr he hq
    rw [← skipped?_of_nameAlike he] at hskip
    exact ⟨q'', .joinTested hl' hskip he', hq'⟩

end Context

namespace Matcher

variable {m m' : Matcher} {r : Rule} {text : String} {tree : Expression}

/-- Let the expression of a rule be read as a tree, and let each operand of it be the label of just one
clause.  With its clauses in another order, whatever is passed over or traced, the rule is evaluated
with the same result: it matches or not, with the same captures of the same clauses in the same order,
as many clauses tested and operands passed over, and the same trace. -/
theorem run_of_perm (hcontext : m'.context = m.context) (htext : r.expression = some text)
    (hread : Expression.read text = .ok tree)
    (hlabels : ∀ l ∈ tree.operands, (r.clauses.map (·.label)).count (some l) = 1)
    {clauses : List Clause} (hperm : clauses.Perm r.clauses) (mode : Mode)
    (state1 state2 : Option State) :
    ∃ ev ev', (m.run mode r state1 state2).2 = .ok ev ∧
      (m'.run mode (r.withClauses clauses) state1 state2).2 = .ok ev' ∧
      ev'.matched = ev.matched ∧
      ev'.progress.captures.map (fun x => (clauses[x.index]?, x.capture)) =
        ev.progress.captures.map (fun x => (r.clauses[x.index]?, x.capture)) ∧
      ev'.progress.clausesTested = ev.progress.clausesTested ∧
      ev'.progress.shortCircuits = ev.progress.shortCircuits ∧
      ev'.progress.trace = ev.progress.trace := by
  have hnames : ∀ l ∈ tree.operands, Rule.NameAlike r (r.withClauses clauses) l :=
    fun l hl => Rule.nameAlike_of_perm hperm (hlabels l hl)
  have hresolve : ∀ l ∈ tree.operands, ∃ c, r.resolve l = .ok c := by
    intro l hl
    obtain ⟨c, -, hc, -⟩ := hnames l hl
    exact ⟨c, hc⟩
  obtain ⟨ev, hev⟩ := exists_run_eq_ok (m := m) htext hread hresolve mode state1 state2
  obtain ⟨tree', skipped, hread', h⟩ := (run_eq_ok_iff htext).mp hev
  obtain rfl := Except.ok.inj (hread.symm.trans hread')
  obtain ⟨q, h', halike⟩ := h.alike hnames (Progress.Alike.start r (r.withClauses clauses))
  rw [← hcontext] at h'
  have hev' : (m'.run mode (r.withClauses clauses) state1 state2).2 = .ok ⟨ev.matched, q⟩ :=
    (run_eq_ok_iff (r := r.withClauses clauses) htext).mpr ⟨tree, skipped, hread, h'⟩
  exact ⟨ev, ⟨ev.matched, q⟩, hev, hev', rfl, halike.captures, halike.clausesTested,
    halike.shortCircuits, halike.trace⟩

private def first : Clause := ((Clause.ofOperation .isNull).withLabel "1").capturing

private def second : Clause := ((Clause.ofOperation .isNull).withLabel "0").inverted

/-- The labels of the clauses are numbers, but not those of their places. -/
private def misnumbered : Rule :=
  (((Rule.named "r" "misnumbered").withClause first).withClause second).withExpression "1 AND 0"

/-- Labels that are numbers stay with their clauses when these change places. -/
theorem run_of_perm_of_numbers :
    let m := withSettings .default ⟨0, 0, by decide⟩
    ∃ ev ev', (m.run ⟨true, true⟩ misnumbered none none).2 = .ok ev ∧
      (m.run ⟨true, true⟩ (misnumbered.withClauses [second, first]) none none).2 = .ok ev' ∧
      ev.progress.captures.map (·.index) = [0] ∧ ev'.progress.captures.map (·.index) = [1] ∧
      ev'.progress.trace = ev.progress.trace := by
  intro m
  have hread : Expression.read "1 AND 0" = .ok (.join (.operand "1") .and (.operand "0")) := by
    rfl
  have hlabels : ∀ l ∈ (Expression.join (.operand "1") .and (.operand "0")).operands,
      (misnumbered.clauses.map (·.label)).count (some l) = 1 := by
    decide
  have hcontext : m.context = m.context := rfl
  obtain ⟨ev, ev', hev, hev', -, -, -, -, htrace⟩ := run_of_perm hcontext rfl hread hlabels
    (List.Perm.swap first second []) ⟨true, true⟩ none none
  have hplaces : (m.run ⟨true, true⟩ misnumbered none none).2.map
      (fun e => e.progress.captures.map (·.index)) = .ok [0] := by
    rfl
  have hplaces' : (m.run ⟨true, true⟩ (misnumbered.withClauses [second, first]) none none).2.map
      (fun e => e.progress.captures.map (·.index)) = .ok [1] := by
    rfl
  rw [hev] at hplaces
  rw [hev'] at hplaces'
  exact ⟨ev, ev', hev, hev', Except.ok.inj hplaces, Except.ok.inj hplaces', htrace⟩

end Matcher

end RuleMatching
