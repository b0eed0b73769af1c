import RuleMatching.Proofs.Expression.Flaw
import RuleMatching.Proofs.Lint.Concern

/-!
Which issue tells of which flaw.  The check of an expression goes in step with the reader up to the
token that the reader refuses, and has something to say of that token itself, `diagnosed_step`.  So all
flaws but three are found by the walk over the tokens, and the reader is asked only for these three:
`diagnosis_of_flaw`.
-/

set_option autoImplicit false
set_option relaxedAutoImplicit false

namespace RuleMatching

namespace Expression

theorem ofName?_of_parenthesis {s : String} {c : Char} (hc : c ∈ s.toList)
    (hparen : c = '(' ∨ c = ')') : BoolOperator.ofName? s = none := by
  rw [Option.eq_none_iff_forall_ne_some]
  intro o ho
  obtain rfl := BoolOperator.ofName?_eq_some_iff.mp ho
  rcases hparen with rfl | rfl <;> cases o <;> simp [BoolOperator.name] at hc

theorem ofName?_wrapped {opens closes : Nat} (core : List Char) (h : 0 < opens ∨ 0 < closes) :
    BoolOperator.ofName? (String.ofList (wrapped opens core closes)) = none := by
  rcases h with h | h
  · exact ofName?_of_parenthesis (c := '(') (by simp [wrapped]; omega) (.inl rfl)
  · exact ofName?_of_parenthesis (c := ')') (by simp [wrapped]; omega) (.inr rfl)

namespace Reader

/-- Opening parentheses are refused for what the reader waited for before the first of them. -/
theorem refuses_of_run_opens {r : Reader} {n : Nat} {f : Flaw}
    (h : r.run (List.replicate n .opening) = .error f) :
    0 < n ∧ Refuses r.isAfterOperand .opening f := by
  induction n generalizing r with
  | zero => simp [run] at h
  | succ n ih =>
    refine ⟨n.succ_pos, ?_⟩
    rw [List.replicate_succ, run] at h
    cases hstep : r.step .opening with
    | error g =>
      simp only [hstep] at h
      obtain rfl := Except.error.inj h
      exact refuses_of_step hstep
    | ok r₁ =>
      simp only [hstep] at h
      have hone : r.run (List.replicate 1 .opening) = .ok r₁ := by
        rw [List.replicate_one, run_singleton, hstep]
      rw [← (run_opens hone).1]
      exact (ih h).2

/-- Closing parentheses are refused before an operand, and behind one if there are more of them than
open groups. -/
theorem refuses_of_run_closes {r : Reader} (hr : r.Inv) {n : Nat} {f : Flaw}
    (h : r.run (List.replicate n .closing) = .error f) :
    Refuses r.isAfterOperand .closing f ∧ (r.isAfterOperand = true → openGroups r.stack < n) := by
  induction n generalizing r with
  | zero => simp [run] at h
  | succ n ih =>
    rw [List.replicate_succ, run] at h
    cases hstep : r.step .closing with
    | error g =>
      simp only [hstep] at h
      obtain rfl := Except.error.inj h
      refine ⟨refuses_of_step hstep, fun hafter => ?_⟩
      cases r with
      | wantsOperand stack => simp [isAfterOperand] at hafter
      | wantsOperator e stack =>
        have hlevel : opensLevel stack = true := hr.2.2.1
        rcases stack with _ | ⟨_ | _ | ⟨l, o⟩, stack⟩
        · exact n.succ_pos
        · simp [opensLevel] at hlevel
        · simp [step] at hstep
        · simp [opensLevel] at hlevel
    | ok r₁ =>
      simp only [hstep] at h
      have hone : r.run (List.replicate 1 .closing) = .ok r₁ := by
        rw [List.replicate_one, run_singleton, hstep]
      obtain ⟨hafter, hgroups, -⟩ := run_closes hone
      obtain ⟨hrefuses, hopen⟩ := ih (inv_step hr hstep).1 h
      rw [← hafter]
      refine ⟨hrefuses, fun h => ?_⟩
      have hlt := hopen h
      omega

end Reader

end Expression

/-- An issue that names a token, or what is left of it without its parentheses. -/
def IssueKind.IsAboutToken (k : IssueKind) (expression token : String) : Prop :=
  k = .charactersBeforeOpenParenthesis expression token ∨
    k = .charactersAfterClosedParenthesis expression token ∨
    k = .parenthesisInLabel expression token ∨
    k = .undefinedLabel expression (Lint.bareText token) ∨
    k = .invalidOperator expression token

namespace Lint

open RuleMatching.Expression (wrapped coreLexemes wrappedLexemes openGroups Flaw Refuses)

/-- What is reported of a flaw.  Of a text that is nested too deeply, of a closing parenthesis in the
place of an operand and of an operator that is also a label there need be no report. -/
def Diagnosed (r : Rule) (text : String) (kinds : List IssueKind) : Flaw → Prop
  | .empty => .endsWithOperator text ∈ kinds
  | .expectedOperand found =>
      (found = Expression.endOfText ∧ .endsWithOperator text ∈ kinds) ∨ found = ")" ∨
        ∃ o : BoolOperator, o ≠ .not ∧ found = o.name ∧
          ((∃ c ∈ r.clauses, c.label = some o.name) ∨ .undefinedLabel text o.name ∈ kinds)
  | .expectedOperator _ => ∃ token, .invalidOperator text token ∈ kinds
  | .notAsOperator =>
      .invalidNotOperator text ∈ kinds ∨ ∃ token, .invalidOperator text token ∈ kinds
  | .unbalancedClose => .unbalancedParentheses text ∈ kinds
  | .unclosed => .unclosedParentheses text ∈ kinds
  | .malformedToken token => ∃ k ∈ kinds, k.IsAboutToken text token
  | .emptyOperand token => ∃ k ∈ kinds, k.IsAboutToken text token
  | .tooDeep limit => limit = Expression.maxNesting

variable {r : Rule} {text : String} {kinds more : List IssueKind} {f : Flaw}

theorem Diagnosed.mono (h : Diagnosed r text kinds f) (hsub : kinds ⊆ more) :
    Diagnosed r text more f := by
  cases f with
  | empty | unbalancedClose | unclosed => exact hsub h
  | expectedOperand found =>
    obtain ⟨hend, h⟩ | hclose | ⟨o, ho, hname, hlabel | h⟩ := h
    · exact .inl ⟨hend, hsub h⟩
    · exact .inr (.inl hclose)
    · exact .inr (.inr ⟨o, ho, hname, .inl hlabel⟩)
    · exact .inr (.inr ⟨o, ho, hname, .inr (hsub h)⟩)
  | expectedOperator found =>
    obtain ⟨token, h⟩ := h
    exact ⟨token, hsub h⟩
  | notAsOperator =>
    obtain h | ⟨token, h⟩ := h
    · exact .inl (hsub h)
    · exact .inr ⟨token, hsub h⟩
  | malformedToken token | emptyOperand token =>
    obtain ⟨k, hk, habout⟩ := h
    exact ⟨k, hsub hk, habout⟩
  | tooDeep limit => exact h

/-- An operator names a clause only as its label, since it is no number. -/
theorem exists_label_of_namesClause {o : BoolOperator} (h : namesClause r o.name = true) :
    ∃ c ∈ r.clauses, c.label = some o.name := by
  have hindex : r.clauseAtIndex? o.name = none := by
    rw [Rule.clauseAtIndex?]
    cases o <;> rfl
  simp only [namesClause, hindex, Option.isSome_none, Bool.or_false, Bool.and_eq_true,
    List.any_eq_true, beq_iff_eq] at h
  exact h.2

namespace Walk

variable {w : Walk} {reader reader' : Expression.Reader}

theorem judge_subset_step (t : Expression.Token) : (w.judge r text t).1 ⊆ (w.step r text t).1 :=
  List.subset_append_left _ _

/-- Closing more parentheses than are open is reported, when it happens first. -/
theorem unbalanced_mem_step {t : Expression.Token} (hover : w.overclosed = false)
    (hdepth : w.depth + balance t < 0) :
    .unbalancedParentheses text ∈ (w.step r text t).1 := by
  refine List.mem_append_right _ ?_
  simp [issueIf, hover, hdepth]

/-! ### The token that the reader refuses -/

/-- In the place of an operator, a token with parentheses in front of it is none. -/
theorem diagnosed_opens {opens closes : Nat} {core : List Char}
    (hcore : ∀ c ∈ core, c ≠ '(' ∧ c ≠ ')') (hopens : 0 < opens)
    (h : Refuses w.wantsOperator .opening f) :
    Diagnosed r text (w.judge r text (Expression.Token.ofText
      (String.ofList (wrapped opens core closes)))).1 f := by
  cases hwants : w.wantsOperator with
  | false =>
    rw [hwants] at h
    cases h
    rfl
  | true =>
    rw [hwants] at h
    cases h
    rw [judge_operator hwants hcore, if_neg (by simp; omega),
      Expression.ofName?_wrapped core (.inl hopens)]
    exact ⟨_, List.mem_singleton_self _⟩

/-- A word that the reader refuses is reported as an operator that there is not, or as a label. -/
theorem diagnosed_word {opens closes : Nat} {c : Char} {cs : List Char}
    (hcore : ∀ d ∈ c :: cs, d ≠ '(' ∧ d ≠ ')') (hopens : w.wantsOperator = true → opens = 0)
    (h : Refuses w.wantsOperator (.word (String.ofList (c :: cs))) f) :
    Diagnosed r text (w.judge r text (Expression.Token.ofText
      (String.ofList (wrapped opens (c :: cs) closes)))).1 f := by
  generalize hword : String.ofList (c :: cs) = word at h
  cases hwants : w.wantsOperator with
  | false =>
    rw [hwants] at h
    cases h with
    | deepNegation => rfl
    | @operator o ho =>
      have hnot : String.ofList (c :: cs) ≠ BoolOperator.not.name := by
        rw [hword]
        cases o with
        | not => exact absurd rfl ho
        | _ => decide
      rw [judge_operand hwants hcore, if_neg (by simp), if_neg hnot, hword]
      refine .inr (.inr ⟨o, ho, rfl, ?_⟩)
      cases hnames : namesClause r o.name with
      | true => exact .inl (exists_label_of_namesClause hnames)
      | false => exact .inr (mem_issueIf.mpr ⟨rfl, rfl⟩)
  | true =>
    rw [hwants] at h
    rw [judge_operator hwants hcore, if_neg (by simp)]
    obtain rfl := hopens hwants
    cases h with
    | negation =>
      rcases Nat.eq_zero_or_pos closes with rfl | hcloses
      · have hcoreonly : wrapped 0 (c :: cs) 0 = c :: cs := by simp [wrapped]
        rw [hcoreonly, hword, BoolOperator.ofName?_name]
        exact .inl (List.mem_singleton_self _)
      · rw [Expression.ofName?_wrapped _ (.inr hcloses)]
        exact .inr ⟨_, List.mem_singleton_self _⟩
    | label hname =>
      have hnone : BoolOperator.ofName? (String.ofList (wrapped 0 (c :: cs) closes)) = none := by
        rcases Nat.eq_zero_or_pos closes with rfl | hcloses
        · have hcoreonly : wrapped 0 (c :: cs) 0 = c :: cs := by simp [wrapped]
          rw [hcoreonly, hword, hname]
        · exact Expression.ofName?_wrapped _ (.inr hcloses)
      rw [hnone]
      exact ⟨_, List.mem_singleton_self _⟩

/-- Where the reader refuses a token, the check that goes in step with it reports the flaw. -/
theorem diagnosed_step (hin : InStep w reader) (hinv : reader.Inv) {opens closes : Nat}
    {core : List Char} (hcore : ∀ c ∈ core, c ≠ '(' ∧ c ≠ ')')
    (hrun : reader.run (wrappedLexemes opens core closes) = .error f) :
    Diagnosed r text (w.step r text (Expression.Token.ofText
      (String.ofList (wrapped opens core closes)))).1 f := by
  obtain ⟨hdepth, hover, hwants⟩ := hin
  rw [wrappedLexemes, Expression.Reader.run_append, Expression.Reader.run_append] at hrun
  cases hopens : reader.run (List.replicate opens .opening) with
  | error g =>
    obtain rfl : g = f := by simpa [hopens, Except.bind] using hrun
    obtain ⟨hpos, hrefuses⟩ := Expression.Reader.refuses_of_run_opens hopens
    rw [← hwants] at hrefuses
    exact (diagnosed_opens hcore hpos hrefuses).mono (judge_subset_step _)
  | ok reader₁ =>
    obtain ⟨hafter₁, hgroups₁, hopens₁⟩ := Expression.Reader.run_opens hopens
    have hinv₁ := (Expression.Reader.inv_run hinv hopens).1
    cases hmid : reader₁.run (coreLexemes core) with
    | error g =>
      obtain rfl : g = f := by simpa [hopens, hmid, Except.bind] using hrun
      cases core with
      | nil => simp [coreLexemes, Expression.Reader.run] at hmid
      | cons c cs =>
        rw [coreLexemes, Expression.Reader.run_singleton] at hmid
        have hrefuses := Expression.Reader.refuses_of_step hmid
        rw [hafter₁, ← hwants] at hrefuses
        refine (diagnosed_word hcore (fun h => ?_) hrefuses).mono (judge_subset_step _)
        exact (hopens₁ (hwants ▸ h)).1
    | ok reader₂ =>
      have hcloses : reader₂.run (List.replicate closes .closing) = .error f := by
        simpa [hopens, hmid, Except.bind] using hrun
      have hinv₂ := (Expression.Reader.inv_run hinv₁ hmid).1
      obtain ⟨hrefuses, hopen⟩ := Expression.Reader.refuses_of_run_closes hinv₂ hcloses
      cases hplace : reader₂.isAfterOperand with
      | false =>
        rw [hplace] at hrefuses
        cases hrefuses
        exact .inr (.inl rfl)
      | true =>
        rw [hplace] at hrefuses
        cases hrefuses
        refine unbalanced_mem_step hover ?_
        have hgroups := Expression.Reader.openGroups_run_coreLexemes hmid
        have hlt := hopen hplace
        rw [balance_wrapped hcore, hdepth]
        omega

/-! ### Runs of the check -/

/-- If the reader refuses something in words that spell lexemes, the check reports the flaw. -/
theorem diagnosed_of_run {ws : List (List Char)} {ls : List Expression.Lexeme}
    (hspelled : Expression.Spelled ws ls) (hin : InStep w reader) (hinv : reader.Inv)
    (hrun : reader.run ls = .error f) :
    Diagnosed r text
      (w.run r text (ws.map fun c => Expression.Token.ofText (String.ofList c))) f := by
  induction hspelled generalizing w reader with
  | nil => simp [Expression.Reader.run] at hrun
  | @cons opens closes core words ls hcore _ _ ih =>
    rw [List.map_cons, run]
    rw [Expression.Reader.run_append] at hrun
    cases hfirst : reader.run (wrappedLexemes opens core closes) with
    | error g =>
      obtain rfl : g = f := by simpa [hfirst, Except.bind] using hrun
      exact (diagnosed_step hin hinv hcore hfirst).mono (List.subset_append_left _ _)
    | ok reader₁ =>
      obtain ⟨w₁, hstep, hin₁⟩ := inStep_step r text hin hcore hfirst
      rw [hfirst] at hrun
      rw [hstep]
      exact (ih hin₁ (Expression.Reader.inv_run hinv hfirst).1 hrun).mono
        (List.subset_append_right _ _)

/-- If the reader comes to the end too early, the check reports that. -/
theorem diagnosed_finish (hin : InStep w reader) (hinv : reader.Inv)
    (hfinish : reader.finish = .error f) : Diagnosed r text (w.finish text) f := by
  obtain ⟨hdepth, -, hwants⟩ := hin
  cases reader with
  | wantsOperand stack =>
    obtain rfl := Except.error.inj hfinish
    refine .inl ⟨rfl, List.mem_append_left _ (mem_issueIf.mpr ⟨?_, rfl⟩)⟩
    rw [hwants]
    rfl
  | wantsOperator e stack =>
    have hlevel : Expression.opensLevel stack = true := hinv.2.2.1
    rcases stack with _ | ⟨_ | _ | ⟨l, o⟩, stack⟩
    · simp [Expression.Reader.finish] at hfinish
    · simp [Expression.opensLevel] at hlevel
    · obtain rfl := Except.error.inj hfinish
      refine List.mem_append_right _ (mem_issueIf.mpr ⟨?_, rfl⟩)
      rw [hdepth]
      simp only [Expression.Reader.stack, Expression.openGroups_group, decide_eq_true_eq]
      omega
    · simp [Expression.opensLevel] at hlevel

/-! ### Tokens without lexemes -/

theorem exists_mem_shapeKinds {t : Expression.Token}
    (h : t.core.toList.any Expression.Token.isParenthesis = true) :
    ∃ k ∈ shapeKinds text t, k.IsAboutToken text t.text := by
  obtain ⟨c, hc, hparen⟩ := List.any_eq_true.mp h
  have hmem : c ∈ t.core.toList.filter Expression.Token.isParenthesis :=
    List.mem_filter.mpr ⟨hc, hparen⟩
  rw [shapeKinds]
  split
  · rename_i hnil
    simp [hnil] at hmem
  · exact ⟨_, List.mem_singleton_self _, .inl rfl⟩
  · split
    · exact ⟨_, List.mem_singleton_self _, .inr (.inr (.inl rfl))⟩
    · exact ⟨_, List.mem_singleton_self _, .inr (.inl rfl)⟩

theorem shapeKinds_subset_operandToken (t : Expression.Token) :
    shapeKinds text t ⊆ (operandToken r text t).1 := by
  rw [operandToken]
  split
  · exact List.Subset.refl _
  · split <;> exact List.subset_append_left _ _

/-- Whatever the check waits for, it reports a token that has no lexemes. -/
theorem exists_about_of_lexemes_eq_error {s : String}
    (h : (Expression.Token.ofText s).lexemes = .error f) (w : Walk) :
    ∃ k ∈ (w.judge r text (Expression.Token.ofText s)).1, k.IsAboutToken text s := by
  have hs := Expression.Token.toList_ofText s
  -- The text of the token holds a parenthesis, so it is no operator.
  have hparen : ∃ c ∈ s.toList, c = '(' ∨ c = ')' := by
    rcases Expression.Token.lexemes_eq_error_iff.mp h with ⟨hany, -⟩ | ⟨-, hopens, -⟩
    · obtain ⟨c, hc, hparen⟩ := List.any_eq_true.mp hany
      rw [hs]
      refine ⟨c, by simp [wrapped, hc], ?_⟩
      simpa [Expression.Token.isParenthesis] using hparen
    · rw [hs]
      exact ⟨'(', by simp [wrapped]; omega, .inl rfl⟩
  obtain ⟨c, hc, hparen⟩ := hparen
  rw [judge]
  cases hwants : w.wantsOperator with
  | true =>
    have hcore : ¬((Expression.Token.ofText s).core = "" ∧ (Expression.Token.ofText s).opens = 0) := by
      rintro ⟨hcore, hopens⟩
      rcases Expression.Token.lexemes_eq_error_iff.mp h with ⟨hany, -⟩ | ⟨-, hpos, -⟩
      · simp [hcore] at hany
      · omega
    have hname : BoolOperator.ofName? (Expression.Token.ofText s).text = none :=
      Expression.ofName?_of_parenthesis hc hparen
    rw [if_pos rfl, operatorToken, if_neg hcore, hname]
    exact ⟨_, List.mem_singleton_self _, .inr (.inr (.inr (.inr rfl)))⟩
  | false =>
    rw [if_neg Bool.false_ne_true]
    rcases Expression.Token.lexemes_eq_error_iff.mp h with ⟨hany, -⟩ | ⟨hcore, hopens, hcloses, -⟩
    · obtain ⟨k, hk, habout⟩ := exists_mem_shapeKinds hany
      exact ⟨k, shapeKinds_subset_operandToken _ hk, habout⟩
    · have hbare : bareText s = "" := by
        have hempty : s.toList = wrapped (Expression.Token.ofText s).opens []
            (Expression.Token.ofText s).closes := by
          rw [hs, hcore]
          rfl
        rw [← String.ofList_toList (s := s), hempty, bareText_wrapped (by simp)]
      have hbare' : bareText (Expression.Token.ofText s).text = "" := hbare
      have hnames : namesClause r "" = false := rfl
      refine ⟨.undefinedLabel text (bareText s), ?_, .inr (.inr (.inr (.inl rfl)))⟩
      rw [operandToken, if_neg (by simp [hopens, hcloses]), hbare', hbare, if_neg (by decide)]
      exact List.mem_append_right _ (mem_issueIf.mpr ⟨by rw [hnames]; rfl, rfl⟩)

theorem exists_mem_run_of_mem {p : IssueKind → Prop} {t : Expression.Token}
    {ts : List Expression.Token} (ht : t ∈ ts)
    (hstep : ∀ w : Walk, ∃ k ∈ (w.step r text t).1, p k) : ∃ k ∈ w.run r text ts, p k := by
  induction ts generalizing w with
  | nil => simp at ht
  | cons u ts ih =>
    rw [run]
    rcases List.mem_cons.mp ht with rfl | ht
    · obtain ⟨k, hk, hp⟩ := hstep w
      exact ⟨k, List.mem_append_left _ hk, hp⟩
    · obtain ⟨k, hk, hp⟩ := ih ht
      exact ⟨k, List.mem_append_right _ hk, hp⟩

theorem diagnosed_of_lexemesOf (h : Expression.lexemesOf (Expression.tokens text) = .error f) :
    Diagnosed r text (w.run r text (Expression.tokens text)) f := by
  obtain ⟨t, ht, hf⟩ := Expression.exists_of_lexemesOf_eq_error h
  obtain ⟨cs, -, rfl⟩ := List.mem_map.mp ht
  have habout : ∃ k ∈ w.run r text (Expression.tokens text),
      k.IsAboutToken text (String.ofList cs) := by
    refine exists_mem_run_of_mem ht fun w => ?_
    obtain ⟨k, hk, habout⟩ := exists_about_of_lexemes_eq_error hf w
    exact ⟨k, judge_subset_step _ hk, habout⟩
  rcases Expression.Token.lexemes_eq_error_iff.mp hf with ⟨-, rfl⟩ | ⟨-, -, -, rfl⟩
  · exact habout
  · exact habout

end Walk

/-- What the walk over the tokens reports of the flaw of an expression. -/
theorem diagnosed_of_read (hread : Expression.read text = .error f) :
    Diagnosed r text (Walk.start.run r text (Expression.tokens text)) f := by
  have hin : Walk.InStep Walk.start Expression.Reader.start := ⟨rfl, rfl, rfl⟩
  have hinv : Expression.Reader.start.Inv := show Expression.StackInv [] from trivial
  rcases Expression.flaw_cases hread with hlex | ⟨ls, hls, hflaw⟩
  · exact Walk.diagnosed_of_lexemesOf hlex
  · have hspelled := Expression.lexemesOf_eq_ok_iff.mp hls
    rcases hflaw with ⟨rfl, rfl⟩ | ⟨-, hrun⟩ | ⟨-, reader, hrun, hfinish⟩
    · obtain ⟨w, hend, hwalk⟩ := Walk.exists_run_of_spelled r text hspelled hin
        (Expression.Reader.run.eq_1 _)
      rw [Expression.tokens, hwalk]
      have hwants : w.wantsOperator = false := hend.2.2
      refine List.mem_append_right _ (List.mem_append_left _ (mem_issueIf.mpr ⟨?_, rfl⟩))
      rw [hwants]
      rfl
    · exact Walk.diagnosed_of_run hspelled hin hinv hrun
    · obtain ⟨w, hend, hwalk⟩ := Walk.exists_run_of_spelled r text hspelled hin hrun
      rw [Expression.tokens, hwalk]
      exact (Walk.diagnosed_finish hend (Expression.Reader.inv_run hinv hrun).1 hfinish).mono
        (List.subset_append_right _ _)

/-- What the walk finds is what is found. -/
theorem run_subset_expressionKinds (r : Rule) (text : String) :
    Walk.start.run r text (Expression.tokens text) ⊆ expressionKinds r text := by
  rw [expressionKinds]
  cases Walk.start.run r text (Expression.tokens text) with
  | nil => exact List.nil_subset _
  | cons k ks => exact List.Subset.refl _

/-- An expression is called unreadable only if the walk finds nothing. -/
theorem eq_of_malformed_mem {e : String} (h : .malformedExpression e f ∈ expressionKinds r text) :
    Walk.start.run r text (Expression.tokens text) = [] ∧ Expression.read text = .error f ∧
      expressionKinds r text = [.malformedExpression text f] := by
  rw [expressionKinds] at h ⊢
  cases hrun : Walk.start.run r text (Expression.tokens text) with
  | nil =>
    simp only [hrun] at h ⊢
    cases hread : Expression.read text with
    | ok tree => simp [hread] at h
    | error g =>
      simp only [hread, List.mem_singleton, IssueKind.malformedExpression.injEq] at h
      obtain ⟨-, rfl⟩ := h
      exact ⟨trivial, rfl, rfl⟩
  | cons k ks =>
    simp only [hrun] at h
    exact absurd rfl ((isOfWalk_of_mem_run (hrun ▸ h)).2 e f)

/-- An expression is called unreadable only if nothing else is found.  Then it is nested too deeply, or a
closing parenthesis stands in the place of an operand, or an operator does that is also the label of a
clause.  Every other flaw has an issue of its own: a missing operand at the end, an open group, a closing
parenthesis too many, a label or a NOT in the place of an operator, and a token without lexemes. -/
theorem diagnosis_of_flaw (r : Rule) (text : String) :
    (∀ e f, .malformedExpression e f ∈ expressionKinds r text →
      expressionKinds r text = [.malformedExpression text f] ∧ Expression.read text = .error f ∧
        (f = .tooDeep Expression.maxNesting ∨ f = .expectedOperand ")" ∨
          ∃ o : BoolOperator, o ≠ .not ∧ f = .expectedOperand o.name ∧
            ∃ c ∈ r.clauses, c.label = some o.name)) ∧
      (Expression.read text = .error .empty ∨
          Expression.read text = .error (.expectedOperand Expression.endOfText) →
        .endsWithOperator text ∈ expressionKinds r text) ∧
      (Expression.read text = .error .unclosed →
        .unclosedParentheses text ∈ expressionKinds r text) ∧
      (Expression.read text = .error .unbalancedClose →
        .unbalancedParentheses text ∈ expressionKinds r text) ∧
      (∀ found, Expression.read text = .error (.expectedOperator found) →
        ∃ token, .invalidOperator text token ∈ expressionKinds r text) ∧
      (Expression.read text = .error .notAsOperator →
        .invalidNotOperator text ∈ expressionKinds r text ∨
          ∃ token, .invalidOperator text token ∈ expressionKinds r text) ∧
      ∀ token, Expression.read text = .error (.malformedToken token) ∨
          Expression.read text = .error (.emptyOperand token) →
        ∃ k ∈ expressionKinds r text, k.IsAboutToken text token := by
  have hdiagnosed : ∀ {f}, Expression.read text = .error f →
      Diagnosed r text (expressionKinds r text) f :=
    fun hread => (diagnosed_of_read hread).mono (run_subset_expressionKinds r text)
  refine ⟨?_, ?_, fun h => hdiagnosed h, fun h => hdiagnosed h, fun found h => hdiagnosed h,
    fun h => hdiagnosed h, ?_⟩
  · intro e f h
    obtain ⟨hnil, hread, hkinds⟩ := eq_of_malformed_mem h
    refine ⟨hkinds, hread, ?_⟩
    have hsilent : Diagnosed r text [] f := hnil ▸ diagnosed_of_read hread
    cases f with
    | tooDeep limit => exact .inl (congrArg _ hsilent)
    | expectedOperand found =>
      obtain ⟨-, hend⟩ | rfl | ⟨o, ho, rfl, hlabel | hundefined⟩ := hsilent
      · simp at hend
      · exact .inr (.inl rfl)
      · exact .inr (.inr ⟨o, ho, rfl, hlabel⟩)
      · simp at hundefined
    | _ => simp [Diagnosed] at hsilent
  · rintro (h | h)
    · exact hdiagnosed h
    · obtain ⟨-, hend⟩ | hclose | ⟨o, -, hname, -⟩ := hdiagnosed h
      · exact hend
      · exact absurd hclose (by decide)
      · cases o <;> exact absurd hname (by decide)
  · rintro token (h | h)
    · exact hdiagnosed h
    · exact hdiagnosed h

private def operatorLabelled : Rule :=
  (Rule.named "r" "labelled by an operator").withClause ((Clause.ofOperation .isNull).withLabel "AND")

/-- An operator in the place of an operand gets past the walk if a clause is labelled with it.  A text
with another flaw has the issue for it, whatever the clauses are called. -/
theorem diagnosis_of_operatorLabel :
    .malformedExpression "AND" (.expectedOperand "AND") ∈ expressionKinds operatorLabelled "AND" ∧
      (∃ o : BoolOperator, o ≠ .not ∧ Flaw.expectedOperand "AND" = .expectedOperand o.name ∧
        ∃ c ∈ operatorLabelled.clauses, c.label = some o.name) ∧
      .endsWithOperator "" ∈ expressionKinds operatorLabelled "" ∧
      .unclosedParentheses "( a" ∈ expressionKinds operatorLabelled "( a" ∧
      .unbalancedParentheses "a )" ∈ expressionKinds operatorLabelled "a )" ∧
      (∃ token, .invalidOperator "a b" token ∈ expressionKinds operatorLabelled "a b") ∧
      (.invalidNotOperator "a NOT)" ∈ expressionKinds operatorLabelled "a NOT)" ∨
        ∃ token, .invalidOperator "a NOT)" token ∈ expressionKinds operatorLabelled "a NOT)") ∧
      ∃ k ∈ expressionKinds operatorLabelled "a ()", k.IsAboutToken "a ()" "()" := by
  have hmem : .malformedExpression "AND" (.expectedOperand "AND") ∈
      expressionKinds operatorLabelled "AND" := by decide +kernel
  have hlabel := ((diagnosis_of_flaw operatorLabelled "AND").1 _ _ hmem).2.2
  simp only [reduceCtorEq, Flaw.expectedOperand.injEq, false_or] at hlabel
  refine ⟨hmem, ?_, (diagnosis_of_flaw _ _).2.1 (.inl rfl), (diagnosis_of_flaw _ _).2.2.1 rfl,
    (diagnosis_of_flaw _ _).2.2.2.1 rfl, (diagnosis_of_flaw _ _).2.2.2.2.1 "b" rfl,
    (diagnosis_of_flaw _ _).2.2.2.2.2.1 rfl, (diagnosis_of_flaw _ _).2.2.2.2.2.2 "()" (.inr rfl)⟩
  simpa using hlabel

end Lint

end RuleMatching
