import RuleMatching.Proofs.Evaluation.CaptureFlag
import RuleMatching.Proofs.Judgement.Operand

/-!
The entries of an operand as a set.  Whether a clause applies depends neither on the order of the
entries of its operand nor on how often they occur.  With more entries a clause that looks for one of
them applies where it did before, a clause that looks for all of them applies nowhere else, and where
all of them are found, so is one: `Matcher.applies_withOperand`.
-/

set_option autoImplicit false
set_option relaxedAutoImplicit false

namespace RuleMatching

namespace Context

variable {ctx : Context} {c : Clause} {o o' : Operand} {state1 state2 : Option State}

/-- A clause applies just if its judgement comes to the verdict that it is not inverted to. -/
theorem applies_iff_verdictOf (hbuiltIn : c.operation ≠ .custom) (before : List Capture) :
    (ctx.clauseAnswer c state1 state2 before).applies = true ↔
      Judgement.verdictOf (ctx.clauseJudgement c state1 state2) =
        ((!c.invert : Bool) : WithBot Bool) := by
  rw [applies_eq_true_iff hbuiltIn, verdict]
  cases ctx.clauseJudgement c state1 state2 with
  | fault => simp [Judgement.verdictOf, Outcome.getD, Judgement.verdict]
  | value v => simp [Judgement.verdictOf, Outcome.getD]

/-- A clause that asks for no pattern is judged without one. -/
theorem clauseJudgement_of_ne_regex (hregex : c.operation ≠ .regex) :
    ctx.clauseJudgement c state1 state2 = (ctx.resolveBoth c state1 state2).andThen fun r =>
      Judgement.ofClause ctx.registry.reducers ctx.now none c r.1 r.2 := by
  have hnone : ∀ r1 r2, patternAsked c r1 r2 = none := fun r1 r2 => if_neg fun h => hregex h.1
  simp only [clauseJudgement, hnone, Option.bind_none]

/-- Two clauses that look in one place and ask for no pattern are compared on what is found there. -/
theorem verdictOf_clauseJudgement_le (c c' : Clause) (hregex : c.operation ≠ .regex)
    (hregex' : c'.operation ≠ .regex) (hfield : c'.field = c.field)
    (h : ∀ r1 r2,
      Judgement.verdictOf
          (Judgement.ofClause ctx.registry.reducers ctx.now none c r1 r2) ≤
        Judgement.verdictOf (Judgement.ofClause ctx.registry.reducers ctx.now none c' r1 r2)) :
    Judgement.verdictOf (ctx.clauseJudgement c state1 state2) ≤
      Judgement.verdictOf (ctx.clauseJudgement c' state1 state2) := by
  rw [clauseJudgement_of_ne_regex hregex, clauseJudgement_of_ne_regex hregex', resolveBoth,
    resolveBoth, hfield]
  cases (ctx.resolve (c.field.getD "") state1).andThen fun r1 =>
      (ctx.resolve (c.field.getD "") state2).andThen fun r2 => Outcome.value (r1, r2) with
  | fault => exact bot_le
  | value r => exact h r.1 r.2

theorem ne_regex_of_seeksOne (h : c.operation.seeksOne = true) : c.operation ≠ .regex := by
  intro hregex
  simp [hregex, Operation.seeksOne] at h

theorem verdictOf_withOperand_le (hseeks : c.operation.seeksOne = true) (h : o.Within o') :
    Judgement.verdictOf (ctx.clauseJudgement (c.withOperand o) state1 state2) ≤
      Judgement.verdictOf (ctx.clauseJudgement (c.withOperand o') state1 state2) :=
  have hregex : c.operation ≠ .regex := ne_regex_of_seeksOne hseeks
  verdictOf_clauseJudgement_le _ _ hregex hregex rfl fun _ _ =>
    Judgement.verdictOf_ofClause_le hseeks h

theorem verdictOf_contains_withOperand_le (hcontains : c.operation = .contains)
    (h : o.Within o') (ho : o.HasEntry) :
    Judgement.verdictOf (ctx.clauseJudgement (c.withOperand o') state1 state2) ≤
      Judgement.verdictOf (ctx.clauseJudgement (c.withOperand o) state1 state2) :=
  have hregex : c.operation ≠ .regex := by simp [hcontains]
  verdictOf_clauseJudgement_le _ _ hregex hregex rfl fun _ _ =>
    Judgement.verdictOf_contains_le hcontains h ho

/-- The verdict of a clause that looks for one entry or for all does not depend on the order of the
entries or on how often they occur. -/
theorem verdictOf_eq_of_sameEntries (hentries : c.operation.seeksOne = true ∨ c.operation = .contains)
    (h : o.SameEntries o') :
    Judgement.verdictOf (ctx.clauseJudgement (c.withOperand o) state1 state2) =
      Judgement.verdictOf (ctx.clauseJudgement (c.withOperand o') state1 state2) := by
  obtain ⟨hle, hge⟩ := h
  rcases hentries with hseeks | hcontains
  · exact le_antisymm (verdictOf_withOperand_le hseeks hle) (verdictOf_withOperand_le hseeks hge)
  · by_cases ho : o.HasEntry
    · exact le_antisymm (verdictOf_contains_withOperand_le hcontains hge (hle.hasEntry ho))
        (verdictOf_contains_withOperand_le hcontains hle ho)
    · rw [hge.eq_of_not_hasEntry ho]

theorem verdictOf_contains_le_containsAny :
    Judgement.verdictOf (ctx.clauseJudgement { c with operation := .contains } state1 state2) ≤
      Judgement.verdictOf (ctx.clauseJudgement { c with operation := .containsAny } state1 state2) :=
  verdictOf_clauseJudgement_le { c with operation := .contains }
    { c with operation := .containsAny } (by simp) (by simp) rfl fun _ _ =>
      Judgement.verdictOf_containsAny_ge c

/-- A clause that is not inverted applies wherever another does whose verdict is never greater. -/
theorem applies_of_verdictOf_le (c c' : Clause) (hbuiltIn : c.operation ≠ .custom)
    (hbuiltIn' : c'.operation ≠ .custom) (hinvert : c.invert = false) (hinvert' : c'.invert = false)
    (h : Judgement.verdictOf (ctx.clauseJudgement c state1 state2) ≤
      Judgement.verdictOf (ctx.clauseJudgement c' state1 state2)) {before : List Capture}
    (happlies : (ctx.clauseAnswer c state1 state2 before).applies = true) :
    (ctx.clauseAnswer c' state1 state2 before).applies = true := by
  rw [applies_iff_verdictOf hbuiltIn, hinvert] at happlies
  rw [applies_iff_verdictOf hbuiltIn', hinvert']
  rw [happlies] at h
  exact top_le_iff.mp h

end Context

namespace Matcher

/-- Let a clause look for one of the entries of its operand or, with `contains`, for all of them.
Whether it applies, inverted or not, depends neither on the order of the entries nor on how often they
occur.  Let it not be inverted, and let some entries be among others.  If it looks for one and applies
with the former, it applies with the latter; if it looks for all, it is the other way round.  A clause
that finds all entries finds one of them. -/
theorem applies_withOperand (m : Matcher) (state1 state2 : Option State) {c : Clause}
    (hentries : c.operation.seeksOne = true ∨ c.operation = .contains) (o o' : Operand) :
    (o.SameEntries o' →
      m.applies (c.withOperand o) state1 state2 = m.applies (c.withOperand o') state1 state2) ∧
    (c.invert = false → o.HasEntry → o.Within o' →
      (c.operation ≠ .contains → m.applies (c.withOperand o) state1 state2 = true →
        m.applies (c.withOperand o') state1 state2 = true) ∧
      (c.operation = .contains → m.applies (c.withOperand o') state1 state2 = true →
        m.applies (c.withOperand o) state1 state2 = true)) ∧
    (c.invert = false → c.operation = .contains →
      m.applies (c.withOperand o) state1 state2 = true →
        m.applies { c.withOperand o with operation := .containsAny } state1 state2 = true) := by
  have hbuiltIn : c.operation ≠ .custom := by
    rintro hcustom
    simp [hcustom, Operation.seeksOne] at hentries
  simp only [applies_eq]
  refine ⟨?_, ?_, ?_⟩
  · intro hsame
    rw [Bool.eq_iff_iff, Context.applies_iff_verdictOf (c := c.withOperand o) hbuiltIn,
      Context.applies_iff_verdictOf (c := c.withOperand o') hbuiltIn,
      Context.verdictOf_eq_of_sameEntries hentries hsame]
    rfl
  · intro hinvert ho hwithin
    refine ⟨fun hcontains => ?_, fun hcontains => ?_⟩
    · exact Context.applies_of_verdictOf_le (c.withOperand o) (c.withOperand o') hbuiltIn hbuiltIn
        hinvert hinvert
        (Context.verdictOf_withOperand_le (hentries.resolve_right hcontains) hwithin)
    · exact Context.applies_of_verdictOf_le (c.withOperand o') (c.withOperand o) hbuiltIn hbuiltIn
        hinvert hinvert
        (Context.verdictOf_contains_withOperand_le hcontains hwithin ho)
  · intro hinvert hcontains
    have hclause : c.withOperand o = { c.withOperand o with operation := .contains } := by
      rw [← hcontains]
      rfl
    refine Context.applies_of_verdictOf_le (c.withOperand o)
      { c.withOperand o with operation := .containsAny } hbuiltIn (by simp) hinvert hinvert ?_
    rw [hclause]
    exact Context.verdictOf_contains_le_containsAny

private def containsIn : Clause := Clause.ofOperation .contains

/-- A text with two parts has them in any order and any number, has each of them alone, and has one of
them. -/
theorem applies_withOperand_of_parts :
    let m := withSettings .default ⟨0, 0, by decide⟩
    let once : Operand := .list ["a", "b"]
    let twice : Operand := .list ["b", "a", "b"]
    (containsIn.operation.seeksOne = true ∨ containsIn.operation = .contains) ∧
      m.applies (containsIn.withOperand twice) (some (.text "cab")) none = true ∧
      m.applies (containsIn.withOperand (.list ["a"])) (some (.text "cab")) none = true ∧
      m.applies { containsIn.withOperand once with operation := .containsAny }
        (some (.text "cab")) none = true := by
  intro m once twice
  have hentries : containsIn.operation.seeksOne = true ∨ containsIn.operation = .contains := .inr rfl
  have honce : m.applies (containsIn.withOperand once) (some (.text "cab")) none = true := by
    decide +kernel
  obtain ⟨hsame, -, hany⟩ :=
    applies_withOperand m (some (.text "cab")) none hentries once twice
  obtain ⟨-, hwithin, -⟩ :=
    applies_withOperand m (some (.text "cab")) none hentries (.list ["a"]) once
  refine ⟨hentries, ?_, ?_, hany rfl rfl honce⟩
  · rw [← hsame ⟨by simp [Operand.Within, once, twice], by simp [Operand.Within, once, twice]⟩]
    exact honce
  · exact (hwithin rfl (.inl (by simp [Operand.data])) (by simp [Operand.Within, once])).2 rfl honce

end Matcher

end RuleMatching
