import RuleMatching.Proofs.Evaluation.Polarity
import RuleMatching.Proofs.Lint.Concern

/-!
What the check of a clause says about whether the clause can be decided.  The operand of a clause
without issues serves, and one that is said to lack data does not.  So a clause without issues is
decided wherever the states allow it and nothing faults, and a clause that lacks data or is not
supported never applies, inverted or not: `Matcher.applies_ne_flipped_of_clean`.
-/

set_option autoImplicit false
set_option relaxedAutoImplicit false

namespace RuleMatching

open Judgement (present)

/-- The check of a custom operation does not report that a clause is not supported. -/
def CustomOperation.NeverUnsupported (o : CustomOperation) : Prop :=
  ∀ r c found, o.issues r c = .value found →
    ∀ i ∈ found, ∀ clause operation custom, i.kind ≠ .unsupportedOperation clause operation custom

/-- Whether a custom operation claims a clause does not depend on inversion. -/
def CustomOperation.IgnoresInvert (o : CustomOperation) : Prop :=
  ∀ c : Clause, o.claims c.flipped = o.claims c

/-- An issue says that the data of a clause are missing. -/
def IssueKind.LacksData (k : IssueKind) : Prop :=
  ∃ clause, k = .noData clause ∨ k = .noDataOrDictData clause

/-- An issue says that the operation of a clause is not supported. -/
def IssueKind.IsUnsupported (k : IssueKind) : Prop :=
  ∃ clause operation custom, k = .unsupportedOperation clause operation custom

namespace Lint

variable {operations : List CustomOperation} {sizeLimit : Option Nat} {r : Rule} {c : ClauseAt}

/-- The data of a clause have no issues as patterns just if each of them is one and, if there are several,
all of them together are. -/
theorem patternKinds_eq_nil_iff : patternKinds sizeLimit c = [] ↔
    (∀ p ∈ c.clause.data, p ≠ "" ∧ Pattern.isValid sizeLimit p = true) ∧
      (1 < c.clause.data.length →
        Pattern.isValid sizeLimit (Judgement.patternText c.clause) = true) := by
  simp only [patternKinds]
  split
  · rename_i hbad
    obtain ⟨p, hp, hpbad⟩ := List.any_eq_true.mp hbad
    refine iff_of_false (fun h => ?_) fun h => ?_
    · exact List.filter_eq_nil_iff.mp (List.map_eq_nil_iff.mp h) p hp hpbad
    · simp [h.1 p hp] at hpbad
  · rename_i hgood
    have hall : ∀ p ∈ c.clause.data, p ≠ "" ∧ Pattern.isValid sizeLimit p = true := by
      intro p hp
      simpa using fun hbad => hgood (List.any_eq_true.mpr ⟨p, hp, hbad⟩)
    rw [and_iff_right hall, issueIf_eq_nil_iff]
    simp

/-- If each of the data is a pattern and so are all together, the pattern of the clause is one. -/
theorem isValid_of_patternKinds (hdata : c.clause.data ≠ []) (h : patternKinds sizeLimit c = []) :
    Pattern.isValid sizeLimit (Judgement.patternText c.clause) = true := by
  obtain ⟨hall, hjoined⟩ := patternKinds_eq_nil_iff.mp h
  by_cases hlength : 1 < c.clause.data.length
  · exact hjoined hlength
  · -- A single text is joined to nothing, and was checked by itself.
    obtain ⟨p, hp⟩ : ∃ p, c.clause.data = [p] := by
      refine List.length_eq_one_iff.mp ?_
      have hpos := List.length_pos_iff.mpr hdata
      omega
    rw [Judgement.patternText, hp, Text.joinWith]
    exact (hall p (by simp [hp])).2

/-- The check for a single text of a kind accepts no other data. -/
theorem exists_single {test : String → Bool} {data : List String}
    (h : (!(data.length == 1 && data.all test)) = false) : ∃ d, data = [d] ∧ test d = true := by
  simp only [Bool.not_eq_false', Bool.and_eq_true, beq_iff_eq] at h
  obtain ⟨d, rfl⟩ := List.length_eq_one_iff.mp h.1
  exact ⟨d, rfl, List.all_eq_true.mp h.2 d List.mem_cons_self⟩

/-- The operand of a clause without issues is one that its operation can be decided with. -/
theorem operandServes_of_operandKinds (hbuiltIn : c.clause.operation ≠ .custom)
    (h : operandKinds sizeLimit c = []) : Judgement.OperandServes sizeLimit c.clause := by
  unfold operandKinds at h
  unfold Judgement.OperandServes
  cases hoperation : c.clause.operation with
  | equals | startsWith | endsWith | containsKey =>
    simp only [hoperation, List.append_eq_nil_iff, issueIf_eq_nil_iff,
      List.isEmpty_eq_false_iff] at h
    exact h.1
  | regex =>
    simp only [hoperation, List.append_eq_nil_iff, issueIf_eq_nil_iff,
      List.isEmpty_eq_false_iff] at h
    exact ⟨h.1.1, isValid_of_patternKinds h.1.1 h.2⟩
  | contains | containsAny =>
    simp only [hoperation, issueIf_eq_nil_iff, Bool.and_eq_false_iff,
      List.isEmpty_eq_false_iff] at h
    exact h
  | lessThan | greaterThan =>
    simp only [hoperation, List.append_eq_nil_iff, issueIf_eq_nil_iff] at h
    obtain ⟨d, hd, hinteger⟩ := exists_single h.1
    exact ⟨d, by rw [hd]; rfl, hinteger⟩
  | isBefore | isAfter =>
    simp only [hoperation, List.append_eq_nil_iff, issueIf_eq_nil_iff] at h
    obtain ⟨d, hd, hinstant⟩ := exists_single h.1
    exact ⟨d, by rw [hd]; exact List.mem_cons_self, hinstant⟩
  | isNull | isTrue | isExpired | wasModified => trivial
  | custom => exact absurd hoperation hbuiltIn

/-- The operand of a clause that is said to lack data does not serve. -/
theorem not_operandServes_of_lacksData {k : IssueKind} (hk : k ∈ operandKinds sizeLimit c)
    (hlacks : k.LacksData) : ¬Judgement.OperandServes sizeLimit c.clause := by
  obtain ⟨clause, hlacks⟩ := hlacks
  have hpatterns : k ∉ patternKinds sizeLimit c := by
    intro hmem
    obtain ⟨_, _, rfl⟩ := exists_of_mem_patternKinds hmem
    simp at hlacks
  unfold operandKinds at hk
  unfold Judgement.OperandServes
  -- Only a condition that fails when data are missing is reported in this way.
  cases hoperation : c.clause.operation with
  | equals | startsWith | endsWith | containsKey | regex | contains | containsAny =>
    simp only [hoperation] at hk ⊢
    grind [mem_issueIf]
  | lessThan | greaterThan | isBefore | isAfter =>
    simp only [hoperation] at hk ⊢
    grind [mem_issueIf]
  | isNull | isTrue | isExpired | wasModified =>
    simp only [hoperation] at hk ⊢
    grind
  | custom => simp

/-! ### Clauses that no custom operation claims -/

/-- A clause that the check itself reports as unsupported is claimed by no custom operation. -/
theorem claimant_of_isUnsupported (hcustom : c.clause.operation = .custom)
    (hnever : ∀ o ∈ operations, o.NeverUnsupported) {found : List Issue}
    (hfound : clauseIssues operations sizeLimit r c = .value found) {i : Issue} (hi : i ∈ found)
    (hunsupported : i.kind.IsUnsupported) : claimant c.clause operations = .value none := by
  rw [clauseIssues, if_pos hcustom] at hfound
  obtain ⟨claimed, hclaimed, hfound⟩ := Outcome.andThen_eq_value_iff.mp hfound
  cases claimed with
  | none => exact hclaimed
  | some o =>
    obtain ⟨clause, operation, custom, hkind⟩ := hunsupported
    exact absurd hkind (hnever o (mem_of_claimant hclaimed) r c found hfound i hi _ _ _)

end Lint

theorem claimant_flipped {operations : List CustomOperation}
    (h : ∀ o ∈ operations, o.IgnoresInvert) (c : Clause) :
    claimant c.flipped operations = claimant c operations := by
  induction operations with
  | nil => rfl
  | cons o os ih =>
    rw [claimant, claimant, h o List.mem_cons_self c,
      ih fun o' ho' => h o' (List.mem_cons_of_mem o ho')]

namespace Context

variable {ctx : Context} {c : Clause} {state1 state2 : Option State}

/-- A custom clause that no custom operation claims does not apply. -/
theorem applies_of_claimant (hcustom : c.operation = .custom)
    (h : claimant c ctx.registry.operations = .value none) (before : List Capture) :
    (ctx.clauseAnswer c state1 state2 before).applies = false := by
  rw [clauseAnswer, answerClause_eq]
  split
  · rfl
  · simp [answer, customAnswer, hcustom, h, Outcome.getD, Answer.noMatch]

/-- A clause whose operand does not serve has no judgement on any states. -/
theorem not_isDecided_of_operand (hbuiltIn : c.operation ≠ .custom)
    (h : ¬Judgement.OperandServes ctx.sizeLimit c) : ¬ctx.IsDecided c state1 state2 := by
  intro hdecided
  obtain ⟨v, hv⟩ := hdecided
  obtain ⟨r, hr, -⟩ := Outcome.andThen_eq_value_iff.mp hv
  exact h ((isDecided_iff hbuiltIn hr).mp ⟨v, hv⟩).2.1

end Context

namespace Matcher

variable {m m' : Matcher}

/-- A built-in clause without issues is never undecidable because of its operand: wherever nothing
faults and there is something to look at in the resolved states, exactly one of it and the flipped
clause applies.  One that is said to lack data never applies, inverted or not.  The same is true of a
custom clause that is said not to be supported, as long as custom operations do not say so themselves
and, for the flipped clause, do not look at inversion. -/
theorem applies_ne_flipped_of_clean (hcontext : m'.context = m.context) (r : Rule) (c : ClauseAt) :
    (c.clause.operation ≠ .custom →
      Lint.clauseIssues m.registry.operations m.settings.sizeLimit r c = .value [] →
      ∀ state1 state2 r1 r2,
        m.context.resolveBoth c.clause state1 state2 = .value (r1, r2) →
        m.context.clauseJudgement c.clause state1 state2 ≠ .fault →
        Judgement.StatesServe m.registry.reducers c.clause (present r1 r2) →
        m.applies c.clause state1 state2 ≠ m'.applies c.clause.flipped state1 state2) ∧
      ∀ found i, Lint.clauseIssues m.registry.operations m.settings.sizeLimit r c = .value found →
        i ∈ found →
        (c.clause.operation ≠ .custom → i.kind.LacksData → ∀ state1 state2,
          m.applies c.clause state1 state2 = false ∧
            m'.applies c.clause.flipped state1 state2 = false) ∧
        (c.clause.operation = .custom → i.kind.IsUnsupported →
          (∀ o ∈ m.registry.operations, o.NeverUnsupported) → ∀ state1 state2,
          m.applies c.clause state1 state2 = false ∧
            ((∀ o ∈ m.registry.operations, o.IgnoresInvert) →
              m'.applies c.clause.flipped state1 state2 = false)) := by
  simp only [applies_eq, hcontext]
  refine ⟨?_, ?_⟩
  · intro hbuiltIn hclean state1 state2 r1 r2 hresolve hjudged hstates
    rw [Lint.clauseIssues, if_neg hbuiltIn, Outcome.value.injEq, List.map_eq_nil_iff] at hclean
    have hoperand := Lint.operandServes_of_operandKinds hbuiltIn hclean
    rw [Context.applies_ne_iff_isDecided hbuiltIn, Context.isDecided_iff hbuiltIn hresolve]
    exact ⟨hjudged, hoperand, hstates⟩
  · intro found i hfound hi
    refine ⟨?_, ?_⟩
    · intro hbuiltIn hlacks state1 state2
      rw [Lint.clauseIssues, if_neg hbuiltIn, Outcome.value.injEq] at hfound
      subst hfound
      obtain ⟨k, hk, rfl⟩ := List.mem_map.mp hi
      exact Context.applies_of_not_isDecided hbuiltIn []
        (Context.not_isDecided_of_operand hbuiltIn (Lint.not_operandServes_of_lacksData hk hlacks))
    · intro hcustom hunsupported hnever state1 state2
      have hnone := Lint.claimant_of_isUnsupported hcustom hnever hfound hi hunsupported
      refine ⟨Context.applies_of_claimant hcustom hnone [], ?_⟩
      intro hignores
      refine Context.applies_of_claimant (c := c.clause.flipped) hcustom ?_ []
      exact (claimant_flipped hignores c.clause).trans hnone

private def eitherLetter : ClauseAt := ⟨0, (Clause.ofOperation .regex).withData ["a", "b"]⟩

/-- A clause with two patterns that are fine also when joined is decided on a text. -/
theorem applies_ne_flipped_of_patterns :
    let m := withSettings .default ⟨0, 0, by decide⟩
    m.applies eitherLetter.clause (some (.text "cab")) none ≠
      m.applies eitherLetter.clause.flipped (some (.text "cab")) none := by
  intro m
  have hclean : Lint.clauseIssues m.registry.operations m.settings.sizeLimit
      ((Rule.named "r" "letters").withClause eitherLetter.clause) eitherLetter = .value [] := by
    decide +kernel
  have hread : Judgement.Readable m.registry.reducers (present (some (.text "cab")) none) := by
    refine ⟨?_, ?_⟩
    all_goals
      intro s hs
      obtain rfl := List.mem_singleton.mp hs
      exact ⟨_, rfl⟩
  have hresolve : m.context.resolveBoth eitherLetter.clause (some (.text "cab")) none =
      .value (some (.text "cab"), none) := rfl
  obtain ⟨v, hv⟩ := Context.exists_clauseJudgement hresolve hread nofun
  refine (applies_ne_flipped_of_clean (m := m) rfl _ eitherLetter).1 (by decide) hclean _ _
    (some (.text "cab")) none hresolve ?_ ?_
  · simp [hv]
  · exact List.cons_ne_nil _ _

private def listOfLists : State := .list 1 fun _ => .list 0 fun _ => .null

private def equalsX : ClauseAt := ⟨0, (Clause.ofOperation .equals).withData ["x"]⟩

private def customX : ClauseAt := ⟨1, (Clause.ofOperation .custom).withCustomOperation "x"⟩

private def unsupported (r : Rule) (c : ClauseAt) : Issue :=
  .about r c (.unsupportedOperation c.callName c.clause.operation c.clause.customOperation)

private def onlyInverted : CustomOperation :=
  ⟨"x", fun c => .value c.invert, fun _ _ _ _ _ => .value (.ok ⟨true, none⟩),
    fun _ _ => .value []⟩

private def selfDenying : CustomOperation :=
  ⟨"x", fun _ => .value true, fun _ _ _ _ _ => .value (.ok ⟨true, none⟩),
    fun r c => .value [unsupported r c]⟩

/-- A reducer that faults leaves a clause without issues undecided on a state that is there, and a
custom operation may apply to a clause that is reported as unsupported: inverted, if it claims such
clauses only, or as it stands, if the report is its own. -/
theorem clean_undecided_of_fault :
    let m := withSettings .default ⟨0, 0, by decide⟩
    let r := ((Rule.named "r" "clauses").withClause equalsX.clause).withClause customX.clause
    let faulting := m.register (·.addReducer fun _ => .fault)
    let claiming := m.register (·.addOperation onlyInverted)
    let denying := m.register (·.addOperation selfDenying)
    r.clausesAt = [equalsX, customX] ∧
    (Lint.clauseIssues faulting.registry.operations faulting.settings.sizeLimit r equalsX =
        .value [] ∧
      faulting.context.resolveBoth equalsX.clause (some listOfLists) none =
        .value (some listOfLists, none) ∧
      faulting.applies equalsX.clause (some listOfLists) none = false ∧
      faulting.applies equalsX.clause.flipped (some listOfLists) none = false) ∧
    (Lint.clauseIssues claiming.registry.operations claiming.settings.sizeLimit r customX =
        .value [unsupported r customX] ∧
      claiming.applies customX.clause.flipped none none = true) ∧
    (Lint.clauseIssues denying.registry.operations denying.settings.sizeLimit r customX =
        .value [unsupported r customX] ∧
      denying.applies customX.clause none none = true) :=
  ⟨rfl, ⟨by decide +kernel, rfl, rfl, rfl⟩, ⟨rfl, rfl⟩, rfl, rfl⟩

end Matcher

end RuleMatching
