import RuleMatching.Proofs.Evaluation.Answering
import RuleMatching.Proofs.Expression.Conjunction
import RuleMatching.Proofs.State.Place

/-!
Rules without an expression.  Such a rule comes to the same as with the expression that joins the
places of its clauses by AND: `Matcher.conjunction_of_places`.  Both evaluations go together up to the
first clause that does not apply; the one without an expression stops there, and the chain cannot
become true any more, whatever it still tests.
-/

set_option autoImplicit false
set_option relaxedAutoImplicit false

namespace RuleMatching

/-- The text of a number is a label. -/
theorem Expression.isLabel_text (n : Nat) : IsLabel (Numeral.text n) := by
  have hdigit : ∀ c ∈ (Numeral.text n).toList, c.isDigit = true := by
    rw [Numeral.text, String.toList_ofList]
    exact fun c hc => Numeral.isDigit_of_mem_digits hc
  refine ⟨(Numeral.isName_text n).1, ?_, ?_⟩
  · intro c hc
    refine ⟨Text.isBlank_of_isDigit (hdigit c hc), ?_, ?_⟩
    · rintro rfl
      exact absurd (hdigit _ hc) (by decide)
    · rintro rfl
      exact absurd (hdigit _ hc) (by decide)
  · intro o hname
    rw [hname] at hdigit
    cases o <;> simp [BoolOperator.name] at hdigit

namespace Rule

variable {r : Rule}

/-- A rule with the expression that joins the places of its clauses by AND. -/
def joiningPlaces (r : Rule) : Rule :=
  r.withExpression (Text.joinWith " AND " ((List.range r.clauses.length).map Numeral.text))

/-- No clause has the place of a clause as its label. -/
def KeepsPlaces (r : Rule) : Prop :=
  ∀ c ∈ r.clauses, ∀ i, i < r.clauses.length → c.label ≠ some (Numeral.text i)

/-- A place names the clause that stands there. -/
theorem resolve_place (hlabels : r.KeepsPlaces) (hlength : r.clauses.length ≤ Numeral.wordBound)
    {c : ClauseAt} (hc : c ∈ r.clausesAt) : r.resolve (Numeral.text c.index) = .ok c := by
  obtain ⟨x, hx, rfl⟩ := List.mem_map.mp hc
  have hplace : r.clauses[x.2]? = some x.1 := List.mem_zipIdx_iff_getElem?.mp hx
  have hindex : x.2 < r.clauses.length := (List.getElem?_eq_some_iff.mp hplace).1
  have hnone : r.labelled (Numeral.text x.2) = [] := by
    by_contra hne
    obtain ⟨d, hd, hlabel⟩ := labelled_ne_nil_iff.mp hne
    exact hlabels d hd x.2 hindex hlabel
  have hat : r.clauseAtIndex? (Numeral.text x.2) = some ⟨x.2, x.1⟩ := by
    rw [clauseAtIndex?, Numeral.index?_text (by omega), Option.bind_some]
    simp [clausesAt, hplace]
  simp only [resolve, hnone, hat]

end Rule

namespace Answering

variable {answering : Answering} {mode : Mode} {rule : Rule}

/-- A conjunct behind what is true so far is tested, and decides. -/
theorem value_and_of_true {first : Expression} {l : String} {c : ClauseAt}
    (hresolve : rule.resolve l = .ok c) {p q : Progress}
    (hfirst : answering.value mode rule first p = (q, .ok true)) :
    answering.value mode rule (.join first .and (.operand l)) p =
      ((answering.clauseValue mode l c q).1, .ok (answering.clauseValue mode l c q).2) := by
  have hskip : Context.skipped? mode rule true .and (.operand l) = none := by
    simp [Context.skipped?, BoolOperator.decided?]
  simp only [value, hfirst, hskip, hresolve]
  rfl

/-- A conjunct behind what is false so far changes nothing; it is not tested if it does not capture
and short circuits are asked for. -/
theorem value_and_of_false {first : Expression} {l : String} {c : ClauseAt}
    (hresolve : rule.resolve l = .ok c) {p q : Progress}
    (hfirst : answering.value mode rule first p = (q, .ok false)) :
    ∃ q', answering.value mode rule (.join first .and (.operand l)) p = (q', .ok false) ∧
      (mode.shortCircuit = true → c.clause.capture = false →
        q'.clausesTested = q.clausesTested) := by
  cases hskip : Context.skipped? mode rule false .and (.operand l) with
  | some v =>
    obtain ⟨-, -, hdecided⟩ := Context.skipped?_eq_some_iff.mp hskip
    obtain rfl : false = v := Option.some.inj hdecided
    refine ⟨q.addShortCircuit mode.traced .and false false, ?_, ?_⟩
    · simp only [value, hfirst, hskip]
    · intro _ _
      rw [Progress.addShortCircuit_clausesTested]
  | none =>
    refine ⟨(answering.clauseValue mode l c q).1, ?_, ?_⟩
    · simp only [value, hfirst, hskip, hresolve]
      rfl
    · intro hshort hcapture
      simp [Context.skipped?, hshort, Rule.mayCaptureIn, Expression.operands, hresolve, hcapture,
        BoolOperator.decided?] at hskip

/-- A chain of ANDs comes to what testing its clauses one after the other comes to. -/
theorem value_conjunction {cs : List ClauseAt}
    (hresolve : ∀ c ∈ cs, rule.resolve (Numeral.text c.index) = .ok c) {first : Expression}
    {p q : Progress} {left : Bool} (hfirst : answering.value mode rule first p = (q, .ok left)) :
    ∃ q', answering.value mode rule
          (first.conjunction (cs.map fun c => Numeral.text c.index)) p =
        (q', .ok (left && (answering.allValue mode cs q).2)) ∧
      ((left && (answering.allValue mode cs q).2) = true →
        q' = (answering.allValue mode cs q).1) ∧
      (mode.shortCircuit = true → (∀ c ∈ cs, c.clause.capture = false) →
        q'.clausesTested =
          if left then (answering.allValue mode cs q).1.clausesTested else q.clausesTested) := by
  induction cs generalizing first p q left with
  | nil => exact ⟨q, by simpa [allValue] using hfirst, fun _ => rfl, fun _ _ => by simp [allValue]⟩
  | cons c cs ih =>
    have hc := hresolve c List.mem_cons_self
    have hcs : ∀ d ∈ cs, rule.resolve (Numeral.text d.index) = .ok d :=
      fun d hd => hresolve d (List.mem_cons_of_mem c hd)
    rw [List.map_cons, Expression.conjunction_cons]
    cases left with
    | false =>
      obtain ⟨q₁, hjoin, htested⟩ := value_and_of_false hc hfirst
      obtain ⟨q', hvalue, -, htested'⟩ := ih hcs hjoin
      refine ⟨q', by simpa using hvalue, by simp, ?_⟩
      intro hshort hcapture
      obtain ⟨hcapturec, hcapturecs⟩ := List.forall_mem_cons.mp hcapture
      simpa [htested hshort hcapturec] using htested' hshort hcapturecs
    | true =>
      have hjoin := value_and_of_true hc hfirst
      obtain ⟨q', hvalue, hprogress, htested⟩ := ih hcs hjoin
      rw [allValue]
      rcases hclause : answering.clauseValue mode (Numeral.text c.index) c q with ⟨q₁, applies⟩
      rw [hclause] at hvalue hprogress htested
      cases applies with
      | true =>
        refine ⟨q', by simpa using hvalue, by simpa using hprogress, ?_⟩
        intro hshort hcapture
        simpa using htested hshort (List.forall_mem_cons.mp hcapture).2
      | false =>
        refine ⟨q', by simpa using hvalue, by simp, ?_⟩
        intro hshort hcapture
        simpa using htested hshort (List.forall_mem_cons.mp hcapture).2

/-- The chain of the places of clauses comes to what testing all of them comes to. -/
theorem value_places {c : ClauseAt} {cs : List ClauseAt}
    (hresolve : ∀ d ∈ c :: cs, rule.resolve (Numeral.text d.index) = .ok d) (p : Progress) :
    ∃ q', answering.value mode rule ((Expression.operand (Numeral.text c.index)).conjunction
          (cs.map fun d => Numeral.text d.index)) p =
        (q', .ok (answering.allValue mode (c :: cs) p).2) ∧
      ((answering.allValue mode (c :: cs) p).2 = true →
        q' = (answering.allValue mode (c :: cs) p).1) ∧
      (mode.shortCircuit = true → (∀ d ∈ c :: cs, d.clause.capture = false) →
        q'.clausesTested = (answering.allValue mode (c :: cs) p).1.clausesTested) := by
  obtain ⟨hc, hcs⟩ := List.forall_mem_cons.mp hresolve
  have hfirst : answering.value mode rule (.operand (Numeral.text c.index)) p =
      ((answering.clauseValue mode (Numeral.text c.index) c p).1,
        .ok (answering.clauseValue mode (Numeral.text c.index) c p).2) := by
    rw [value, hc]
  obtain ⟨q', hvalue, hprogress, htested⟩ := value_conjunction hcs hfirst
  rw [allValue]
  rcases hclause : answering.clauseValue mode (Numeral.text c.index) c p with ⟨q, applies⟩
  rw [hclause] at hvalue hprogress htested
  have hnocapture : (∀ d ∈ c :: cs, d.clause.capture = false) → ∀ d ∈ cs, d.clause.capture = false :=
    fun h => (List.forall_mem_cons.mp h).2
  cases applies with
  | true =>
    refine ⟨q', by simpa using hvalue, by simpa using hprogress, ?_⟩
    intro hshort hcapture
    simpa using htested hshort (hnocapture hcapture)
  | false =>
    refine ⟨q', by simpa using hvalue, by simp, ?_⟩
    intro hshort hcapture
    simpa using htested hshort (hnocapture hcapture)

/-- A rule without an expression and the one that joins the places of its clauses come to the same
value and the same captures, and they test equally many clauses if nothing captures and short
circuits are asked for. -/
theorem evaluation_joiningPlaces (hnone : rule.expression = none) (hclauses : rule.clauses ≠ [])
    (hlabels : rule.KeepsPlaces) (hlength : rule.clauses.length ≤ Numeral.wordBound) :
    ∃ ev ev', answering.evaluation mode rule = .ok ev ∧
      answering.evaluation mode rule.joiningPlaces = .ok ev' ∧ ev'.matched = ev.matched ∧
      ev'.captures? = ev.captures? ∧
      (mode.shortCircuit = true → (∀ c ∈ rule.clauses, c.capture = false) →
        ev'.progress.clausesTested = ev.progress.clausesTested) := by
  have hplaces : (List.range rule.clauses.length).map Numeral.text =
      rule.clausesAt.map fun c => Numeral.text c.index := by
    rw [← Rule.map_index_clausesAt, List.map_map]
    rfl
  have hexpression : rule.joiningPlaces.expression =
      some (Text.joinWith " AND " (rule.clausesAt.map fun c => Numeral.text c.index)) := by
    rw [← hplaces]
    rfl
  have hresolve : ∀ c ∈ rule.clausesAt,
      rule.joiningPlaces.resolve (Numeral.text c.index) = .ok c :=
    fun c hc => Rule.resolve_place (r := rule.joiningPlaces) hlabels hlength hc
  have hcapture : (∀ c ∈ rule.clauses, c.capture = false) →
      ∀ c ∈ rule.clausesAt, c.clause.capture = false :=
    fun h c hc => h c.clause (Rule.clause_mem_clauses hc)
  simp only [evaluation, hnone, hexpression]
  cases hcs : rule.clausesAt with
  | nil => exact absurd (by rw [← rule.map_clause_clausesAt, hcs, List.map_nil]) hclauses
  | cons c cs =>
    rw [hcs] at hresolve hcapture
    have hread : Expression.read (Text.joinWith " AND "
          ((c :: cs).map fun c => Numeral.text c.index)) =
        .ok ((Expression.operand (Numeral.text c.index)).conjunction
          (cs.map fun c => Numeral.text c.index)) := by
      refine Expression.read_joinWith_and ?_
      intro l hl
      have hl : l ∈ (c :: cs).map fun c => Numeral.text c.index := hl
      obtain ⟨d, -, rfl⟩ := List.mem_map.mp hl
      exact Expression.isLabel_text d.index
    obtain ⟨q', hvalue, hprogress, htested⟩ :=
      @value_places answering mode rule.joiningPlaces c cs hresolve .start
    simp only [hread, hvalue]
    refine ⟨_, _, rfl, rfl, rfl, ?_, fun hshort h => htested hshort (hcapture h)⟩
    simp only [Evaluation.captures?]
    split
    · rename_i hmatched
      rw [hprogress hmatched]
    · rfl

end Answering

namespace Matcher

/-- A rule that has clauses and no expression comes to the same as the rule with the expression that
joins the places of its clauses by AND, if no clause has a place as its label: in every mode both
match or neither does, and both have the same captures if they match.  With short circuits and
without captures as many clauses are tested.  A list has no more items than there are indices. -/
theorem conjunction_of_places (m : Matcher) {r : Rule} (hnone : r.expression = none)
    (hclauses : r.clauses ≠ []) (hlength : r.clauses.length ≤ Numeral.wordBound)
    (hlabels : r.KeepsPlaces) (state1 state2 : Option State) :
    (m.isMatch r state1 state2).2 = (m.isMatch r.joiningPlaces state1 state2).2 ∧
      (m.captures? r state1 state2).2 = (m.captures? r.joiningPlaces state1 state2).2 ∧
      (m.settings.shortCircuit = true → (∀ c ∈ r.clauses, c.capture = false) →
        (m.evaluate r state1 state2).2.progress.clausesTested =
          (m.evaluate r.joiningPlaces state1 state2).2.progress.clausesTested) ∧
      ∀ mode, ∃ ev ev', (m.run mode r state1 state2).2 = .ok ev ∧
        (m.run mode r.joiningPlaces state1 state2).2 = .ok ev' ∧ ev'.matched = ev.matched ∧
        ev'.captures? = ev.captures? ∧
        (mode.shortCircuit = true → (∀ c ∈ r.clauses, c.capture = false) →
          ev'.progress.clausesTested = ev.progress.clausesTested) := by
  have hevaluation := fun mode => @Answering.evaluation_joiningPlaces
    (m.context.answering state1 state2) mode r hnone hclauses hlabels hlength
  obtain ⟨ev, ev', hev, hev', hmatched, hcaptures, htested⟩ := hevaluation m.mode
  have hisFor : r.joiningPlaces.isFor state1 state2 = r.isFor state1 state2 := rfl
  simp only [isMatch_snd, captures?_snd, evaluate_snd, run_snd, Context.evaluationOf, hisFor, hev,
    hev']
  rcases r.isFor state1 state2 with (_ | _) | _
  · exact ⟨rfl, rfl, fun _ _ => rfl, hevaluation⟩
  · exact ⟨hmatched.symm, hcaptures.symm, fun hshort h => (htested hshort h).symm, hevaluation⟩
  · exact ⟨rfl, rfl, fun _ _ => rfl, hevaluation⟩

/-- A custom operation that applies if something was captured before it. -/
private def recalling : CustomOperation where
  name := "recall"
  claims c := .value (c.asksFor "recall")
  answer _ _ _ before _ := .value (.ok ⟨!before.isEmpty, none⟩)
  issues _ _ := .value []

private def nothingRecalled : Rule :=
  ((Rule.named "r" "recall").withClause
    ((Clause.ofOperation .isNull).withLabel "a").capturing).withClause
      ((Clause.ofOperation .custom).withCustomOperation "recall")

/-- The second of two clauses recalls the capture of the first in the chain of their places, too. -/
theorem conjunction_of_two_places :
    let m := (withSettings .default ⟨0, 0, by decide⟩).register (·.addOperation recalling)
    nothingRecalled.expression = none ∧ nothingRecalled.clauses ≠ [] ∧
      nothingRecalled.clauses.length ≤ Numeral.wordBound ∧ nothingRecalled.KeepsPlaces ∧
      nothingRecalled.joiningPlaces.expression = some "0 AND 1" ∧
      (m.isMatch nothingRecalled.joiningPlaces none none).2 = true ∧
      (m.captures? nothingRecalled.joiningPlaces none none).2.map List.length = some 1 := by
  intro m
  have hclauses : nothingRecalled.clauses ≠ [] := by simp [nothingRecalled, Rule.withClause]
  have hlength : nothingRecalled.clauses.length ≤ Numeral.wordBound := by decide
  have hlabels : nothingRecalled.KeepsPlaces := by
    unfold Rule.KeepsPlaces
    decide +kernel
  obtain ⟨hmatch, hcaptures, -⟩ :=
    m.conjunction_of_places (r := nothingRecalled) rfl hclauses hlength hlabels none none
  refine ⟨rfl, hclauses, hlength, hlabels, by decide +kernel, ?_, ?_⟩
  · rw [← hmatch]
    rfl
  · rw [← hcaptures]
    rfl

end Matcher

end RuleMatching
