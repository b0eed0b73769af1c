import RuleMatching.Proofs.Expression.OpenGroups
import RuleMatching.Proofs.Expression.Reading
import RuleMatching.Proofs.Text.Words

/-!
Where flaws come from, and what may follow a text that has one.  The reader refuses a lexeme for what it
waits for and for what the lexeme is, `refuses_of_step`, so that nothing behind the lexeme matters.  A
text that is no expression therefore either ends too early, and some text behind it completes it, or
keeps its flaw whatever follows: `flaw_incomplete_or_final`.
-/

set_option autoImplicit false
set_option relaxedAutoImplicit false

namespace RuleMatching.Expression

/-- The flaw of a text that just ends too early. -/
def Flaw.IsIncomplete (f : Flaw) : Prop :=
  f = .empty ∨ f = .expectedOperand endOfText ∨ f = .unclosed

/-- The flaw of a token that has no lexemes. -/
def Flaw.IsMisspelled (f : Flaw) : Prop :=
  ∃ token, f = .malformedToken token ∨ f = .emptyOperand token

/-! ### Tokens without lexemes -/

theorem Token.lexemes_eq_error_iff {t : Token} {f : Flaw} :
    t.lexemes = .error f ↔
      (t.core.toList.any isParenthesis = true ∧ f = .malformedToken t.text) ∨
        (t.core = "" ∧ 0 < t.opens ∧ 0 < t.closes ∧ f = .emptyOperand t.text) := by
  rw [lexemes]
  by_cases hparen : t.core.toList.any isParenthesis = true
  · have hcore : t.core ≠ "" := by
      intro h
      simp [h] at hparen
    simp [hparen, hcore, eq_comm]
  · by_cases hempty : t.core = "" ∧ 0 < t.opens ∧ 0 < t.closes
    · simp [hempty, eq_comm]
    · simp only [hparen, hempty, Bool.false_eq_true, if_false, reduceCtorEq, false_and, false_or,
        false_iff]
      rintro ⟨hcore, hopens, hcloses, -⟩
      exact hempty ⟨hcore, hopens, hcloses⟩

/-- Tokens have no lexemes together because one of them has none. -/
theorem exists_of_lexemesOf_eq_error {ts : List Token} {f : Flaw} (h : lexemesOf ts = .error f) :
    ∃ t ∈ ts, t.lexemes = .error f := by
  induction ts with
  | nil => simp [lexemesOf] at h
  | cons t ts ih =>
    rw [lexemesOf] at h
    cases ht : t.lexemes with
    | error g =>
      simp only [ht] at h
      obtain rfl := Except.error.inj h
      exact ⟨t, List.mem_cons_self, ht⟩
    | ok ls =>
      simp only [ht] at h
      cases hts : lexemesOf ts with
      | error g =>
        simp only [hts] at h
        obtain rfl := Except.error.inj h
        obtain ⟨u, hu, hf⟩ := ih hts
        exact ⟨u, List.mem_cons_of_mem t hu, hf⟩
      | ok ms => simp [hts] at h

theorem isMisspelled_of_lexemesOf {ts : List Token} {f : Flaw} (h : lexemesOf ts = .error f) :
    f.IsMisspelled := by
  obtain ⟨t, -, ht⟩ := exists_of_lexemesOf_eq_error h
  obtain ⟨-, rfl⟩ | ⟨-, -, -, rfl⟩ := Token.lexemes_eq_error_iff.mp ht
  · exact ⟨_, .inl rfl⟩
  · exact ⟨_, .inr rfl⟩

theorem exists_lexemesOf {ts : List Token} (h : ∀ t ∈ ts, ∃ ls, t.lexemes = .ok ls) :
    ∃ ls, lexemesOf ts = .ok ls := by
  cases hts : lexemesOf ts with
  | ok ls => exact ⟨ls, rfl⟩
  | error f =>
    obtain ⟨t, ht, hf⟩ := exists_of_lexemesOf_eq_error hts
    obtain ⟨ls, hls⟩ := h t ht
    simp [hls] at hf

theorem lexemesOf_append (ts us : List Token) :
    lexemesOf (ts ++ us) =
      (lexemesOf ts).bind fun ls => (lexemesOf us).map fun ms => ls ++ ms := by
  induction ts with
  | nil =>
    rw [List.nil_append, lexemesOf]
    cases lexemesOf us <;> rfl
  | cons t ts ih =>
    rw [List.cons_append, lexemesOf, lexemesOf, ih]
    cases t.lexemes with
    | error f => rfl
    | ok ls =>
      cases lexemesOf ts with
      | error f => rfl
      | ok ms => cases lexemesOf us <;> simp [Except.bind, Except.map]

/-- The tokens of two texts with a blank between them. -/
theorem tokens_append (s u : String) : tokens (s ++ " " ++ u) = tokens s ++ tokens u := by
  have htext : (s ++ " " ++ u).toList = s.toList ++ ' ' :: u.toList := by simp
  rw [tokens, htext, Text.words_append (by decide), List.map_append, tokens, tokens]

/-! ### Lexemes that are refused -/

/-- What a reader refuses, and why: `afterOperand` says whether it waits for an operator. -/
inductive Refuses : (afterOperand : Bool) → Lexeme → Flaw → Prop
  | deepGroup : Refuses false .opening (.tooDeep maxNesting)
  | deepNegation : Refuses false (.word BoolOperator.not.name) (.tooDeep maxNesting)
  | operator {o : BoolOperator} : o ≠ .not → Refuses false (.word o.name) (.expectedOperand o.name)
  | earlyClose : Refuses false .closing (.expectedOperand ")")
  | group : Refuses true .opening (.expectedOperator "(")
  | negation : Refuses true (.word BoolOperator.not.name) .notAsOperator
  | label {w : String} :
      BoolOperator.ofName? w = none → Refuses true (.word w) (.expectedOperator w)
  | unbalancedClose : Refuses true .closing .unbalancedClose

theorem Refuses.not_isIncomplete {afterOperand : Bool} {l : Lexeme} {f : Flaw}
    (h : Refuses afterOperand l f) : ¬f.IsIncomplete := by
  cases h with
  | @operator o ho => cases o <;> simp [Flaw.IsIncomplete, BoolOperator.name, endOfText]
  | _ => simp [Flaw.IsIncomplete, endOfText]

namespace Reader

theorem eq_of_enter_eq_error {frame : Frame} {stack : List Frame} {f : Flaw}
    (h : enter frame stack = .error f) : f = .tooDeep maxNesting := by
  rw [enter] at h
  split at h
  · exact (Except.error.inj h).symm
  · simp at h

theorem refuses_of_step {r : Reader} {l : Lexeme} {f : Flaw} (h : r.step l = .error f) :
    Refuses r.isAfterOperand l f := by
  cases r with
  | wantsOperand stack =>
    cases l with
    | opening =>
      obtain rfl := eq_of_enter_eq_error h
      exact .deepGroup
    | closing =>
      obtain rfl := Except.error.inj h
      exact .earlyClose
    | word w =>
      cases hw : BoolOperator.ofName? w with
      | none => simp [step, hw] at h
      | some o =>
        obtain rfl := BoolOperator.ofName?_eq_some_iff.mp hw
        by_cases ho : o = .not
        · subst ho
          rw [step_not] at h
          obtain rfl := eq_of_enter_eq_error h
          exact .deepNegation
        · have hstep : (wantsOperand stack).step (.word o.name) =
              .error (.expectedOperand o.name) := by
            cases o with
            | not => exact absurd rfl ho
            | _ => simp only [step, hw]
          obtain rfl := Except.error.inj (hstep.symm.trans h)
          exact .operator ho
  | wantsOperator e stack =>
    cases l with
    | opening =>
      obtain rfl := Except.error.inj h
      exact .group
    | closing =>
      have hclose : f = .unbalancedClose := by
        rcases stack with _ | ⟨_ | _ | ⟨l, o⟩, stack⟩ <;> simp_all [step]
      subst hclose
      exact .unbalancedClose
    | word w =>
      cases hw : BoolOperator.ofName? w with
      | none =>
        simp only [step, hw] at h
        obtain rfl := Except.error.inj h
        exact .label hw
      | some o =>
        obtain rfl := BoolOperator.ofName?_eq_some_iff.mp hw
        by_cases ho : o = .not
        · subst ho
          simp only [step, hw] at h
          obtain rfl := Except.error.inj h
          exact .negation
        · simp [step_operator ho] at h

/-- A run ends at the first lexeme that is refused. -/
theorem exists_refused_of_run {r : Reader} {ls : List Lexeme} {f : Flaw}
    (h : r.run ls = .error f) : ∃ afterOperand, ∃ l ∈ ls, Refuses afterOperand l f := by
  induction ls generalizing r with
  | nil => simp [run] at h
  | cons l ls ih =>
    rw [run] at h
    cases hl : r.step l with
    | error g =>
      simp only [hl] at h
      obtain rfl := Except.error.inj h
      exact ⟨_, l, List.mem_cons_self, refuses_of_step hl⟩
    | ok r' =>
      simp only [hl] at h
      obtain ⟨afterOperand, m, hm, hrefuses⟩ := ih h
      exact ⟨afterOperand, m, List.mem_cons_of_mem l hm, hrefuses⟩

end Reader

/-! ### The flaws of a text -/

/-- A text is no expression because a token of it has no lexemes, because it has no tokens, because a
lexeme of it is refused, or because it ends too early. -/
theorem flaw_cases {s : String} {f : Flaw} (h : read s = .error f) :
    lexemesOf (tokens s) = .error f ∨ ∃ ls, lexemesOf (tokens s) = .ok ls ∧
      ((ls = [] ∧ f = .empty) ∨ (ls ≠ [] ∧ Reader.start.run ls = .error f) ∨
        (ls ≠ [] ∧ ∃ r, Reader.start.run ls = .ok r ∧ r.finish = .error f)) := by
  rw [read] at h
  cases hls : lexemesOf (tokens s) with
  | error g =>
    simp only [hls] at h
    obtain rfl := Except.error.inj h
    exact .inl rfl
  | ok ls =>
    simp only [hls, ofLexemes] at h
    refine .inr ⟨ls, rfl, ?_⟩
    split at h
    · rename_i hnil
      exact .inl ⟨hnil, (Except.error.inj h).symm⟩
    · rename_i hne
      cases hrun : Reader.start.run ls with
      | error g =>
        simp only [hrun] at h
        obtain rfl := Except.error.inj h
        exact .inr (.inl ⟨hne, rfl⟩)
      | ok r =>
        simp only [hrun] at h
        exact .inr (.inr ⟨hne, r, rfl, h⟩)

theorem isIncomplete_of_finish {r : Reader} {f : Flaw} (h : r.finish = .error f) :
    f.IsIncomplete := by
  cases r with
  | wantsOperand stack => exact .inr (.inl (Except.error.inj h).symm)
  | wantsOperator e stack =>
    cases stack with
    | nil => simp [Reader.finish] at h
    | cons frame stack => exact .inr (.inr (Except.error.inj h).symm)

/-! ### Texts that end too early -/

namespace Reader

/-- Behind an operand, a closing parenthesis for each open group completes the expression. -/
theorem exists_run_closes {e : Expression} {stack : List Frame} (hr : (wantsOperator e stack).Inv) :
    ∃ e', (wantsOperator e stack).run (List.replicate (openGroups stack) .closing) =
      .ok (wantsOperator e' []) := by
  -- Closing a group may finish negations and a chain below it, so the induction is on the number of
  -- groups and not on the stack.
  generalize hn : openGroups stack = n
  induction n generalizing e stack with
  | zero =>
    have hlevel : opensLevel stack = true := hr.2.2.1
    rcases stack with _ | ⟨_ | _ | ⟨l, o⟩, stack⟩
    · exact ⟨e, rfl⟩
    · simp [opensLevel] at hlevel
    · simp at hn
    · simp [opensLevel] at hlevel
  | succ n ih =>
    have hlevel : opensLevel stack = true := hr.2.2.1
    rcases stack with _ | ⟨_ | _ | ⟨l, o⟩, stack⟩
    · simp at hn
    · simp [opensLevel] at hlevel
    · obtain ⟨e₁, stack₁, hsettle, hgroups⟩ := exists_settle (.group e) stack
      have hstep : (wantsOperator e (.group :: stack)).step .closing =
          .ok (wantsOperator e₁ stack₁) := by
        rw [← hsettle]
        rfl
      have hopen : openGroups stack₁ = n := by
        rw [openGroups_group] at hn
        omega
      obtain ⟨e', hrun⟩ := ih (inv_step hr hstep).1 hopen
      exact ⟨e', by rw [List.replicate_succ, run, hstep]; exact hrun⟩
    · simp [opensLevel] at hlevel

end Reader

/-- A text is read by going on from where the text before it was left. -/
theorem read_append_of_run {s u : String} {ls ms : List Lexeme} {r : Reader} {e : Expression}
    (hls : lexemesOf (tokens s) = .ok ls) (hrun : Reader.start.run ls = .ok r)
    (hms : lexemesOf (tokens u) = .ok ms) (hrest : r.run ms = .ok (.wantsOperator e []))
    (hne : ls ++ ms ≠ []) : read (s ++ " " ++ u) = .ok e := by
  have hlexemes : lexemesOf (tokens (s ++ " " ++ u)) = .ok (ls ++ ms) := by
    rw [tokens_append, lexemesOf_append, hls, hms]
    rfl
  rw [read, hlexemes]
  simp only [ofLexemes, hne, if_false]
  rw [Reader.run_append, hrun, Except.bind, hrest]
  rfl

/-- A core with closing parentheses behind it has the lexemes that one expects. -/
theorem lexemesOf_closes {core : List Char}
    (hcore : ∀ c ∈ core, Text.isBlank c = false ∧ c ≠ '(' ∧ c ≠ ')') {n : Nat}
    (hne : wrapped 0 core n ≠ []) :
    lexemesOf (tokens (String.ofList (wrapped 0 core n))) =
      .ok (coreLexemes core ++ List.replicate n .closing) := by
  have hblank : ∀ c ∈ wrapped 0 core n, Text.isBlank c = false := by
    intro c hc
    simp only [wrapped, List.replicate_zero, List.nil_append, List.mem_append] at hc
    rcases hc with hc | hc
    · exact (hcore c hc).1
    · obtain rfl := List.eq_of_mem_replicate hc
      decide
  have hspelled : Spelled [wrapped 0 core n] (wrappedLexemes 0 core n ++ []) :=
    .cons (fun c hc => (hcore c hc).2) (by simp) .nil
  rw [tokens, String.toList_ofList, Text.words_of_not_blank hne hblank,
    lexemesOf_eq_ok_iff.mpr hspelled]
  simp [wrappedLexemes]

/-- A text that ends too early can be completed: by an operand, if one is missing, and a closing
parenthesis for each open group. -/
theorem exists_read_append {s : String} {f : Flaw} (h : read s = .error f) (hf : f.IsIncomplete) :
    ∃ u e, read (s ++ " " ++ u) = .ok e := by
  have hstart : Reader.start.Inv := show StackInv [] from trivial
  rcases flaw_cases h with hlex | ⟨ls, hls, ⟨rfl, -⟩ | ⟨-, hrun⟩ | ⟨hne, r, hrun, hfinish⟩⟩
  · obtain ⟨token, rfl | rfl⟩ := isMisspelled_of_lexemesOf hlex <;> simp [Flaw.IsIncomplete] at hf
  · have hms : lexemesOf (tokens "a") = .ok [.word "a"] := rfl
    exact ⟨"a", .operand "a", read_append_of_run hls rfl hms rfl (by simp)⟩
  · obtain ⟨_, l, -, hrefuses⟩ := Reader.exists_refused_of_run hrun
    exact absurd hf hrefuses.not_isIncomplete
  · have hinv := (Reader.inv_run hstart hrun).1
    cases r with
    | wantsOperand stack =>
      obtain ⟨e₁, stack₁, hsettle, hgroups⟩ := Reader.exists_settle (.operand "a") stack
      have hstep : (Reader.wantsOperand stack).step (.word "a") =
          .ok (Reader.wantsOperator e₁ stack₁) := by
        rw [← hsettle]
        rfl
      obtain ⟨e, hcloses⟩ := Reader.exists_run_closes (Reader.inv_step hinv hstep).1
      have hletter : ∀ c ∈ ['a'], Text.isBlank c = false ∧ c ≠ '(' ∧ c ≠ ')' := by
        intro c hc
        obtain rfl := List.mem_singleton.mp hc
        decide
      have hms := @lexemesOf_closes ['a'] hletter (openGroups stack₁) (by simp [wrapped])
      refine ⟨_, e, read_append_of_run hls hrun hms ?_ (by simp [hne])⟩
      show (Reader.wantsOperand stack).run (.word "a" :: List.replicate _ .closing) = _
      rw [Reader.run, hstep]
      exact hcloses
    | wantsOperator e₁ stack =>
      have hopen : openGroups stack ≠ 0 := by
        have hlevel : opensLevel stack = true := hinv.2.2.1
        rcases stack with _ | ⟨_ | _ | ⟨l, o⟩, stack⟩ <;> simp_all [opensLevel, Reader.finish]
      obtain ⟨e, hcloses⟩ := Reader.exists_run_closes hinv
      have hms := @lexemesOf_closes [] (by simp) (openGroups stack) (by simpa [wrapped] using hopen)
      exact ⟨_, e, read_append_of_run hls hrun hms hcloses (by simp [hne])⟩

/-! ### Texts that cannot be completed -/

/-- Whatever follows a text with a flaw other than ending too early, the flaw is what is found, unless
what follows has tokens without lexemes. -/
theorem read_append_eq_error {s u : String} {f : Flaw} (h : read s = .error f)
    (hf : ¬f.IsIncomplete) {ms : List Lexeme} (hms : lexemesOf (tokens u) = .ok ms) :
    read (s ++ " " ++ u) = .error f := by
  rw [read, tokens_append, lexemesOf_append, hms]
  rcases flaw_cases h with hlex | ⟨ls, hls, ⟨-, rfl⟩ | ⟨hne, hrun⟩ | ⟨-, r, -, hfinish⟩⟩
  · rw [hlex]
    rfl
  · exact absurd (.inl rfl) hf
  · rw [hls]
    show ofLexemes (ls ++ ms) = .error f
    rw [ofLexemes, if_neg (by simp [hne]), Reader.run_append, hrun]
    rfl
  · exact absurd (isIncomplete_of_finish hfinish) hf

/-- Tokens without lexemes in a text are found before anything else that follows. -/
theorem read_append_of_lexemesOf_eq_error {s u : String} {f : Flaw}
    (h : lexemesOf (tokens s) = .error f) : read (s ++ " " ++ u) = .error f := by
  rw [read, tokens_append, lexemesOf_append, h]
  rfl

theorem lexemesOf_eq_error_of_isMisspelled {s : String} {f : Flaw} (h : read s = .error f)
    (hf : f.IsMisspelled) : lexemesOf (tokens s) = .error f := by
  obtain ⟨token, hf⟩ := hf
  rcases flaw_cases h with hlex | ⟨ls, -, ⟨-, rfl⟩ | ⟨-, hrun⟩ | ⟨-, r, -, hfinish⟩⟩
  · exact hlex
  · simp at hf
  · obtain ⟨_, l, -, hrefuses⟩ := Reader.exists_refused_of_run hrun
    rcases hf with rfl | rfl <;> cases hrefuses
  · rcases hf with rfl | rfl <;> simpa [Flaw.IsIncomplete] using isIncomplete_of_finish hfinish

/-- A text that is no expression ends too early, and then some text behind it makes it one; or no text
behind it does.  In this case its flaw is also that of the longer text, if all tokens of the text behind
it have lexemes, or if the flaw is that a token has none. -/
theorem flaw_incomplete_or_final {s : String} {f : Flaw} (h : read s = .error f) :
    (f.IsIncomplete → ∃ u e, read (s ++ " " ++ u) = .ok e) ∧
      (¬f.IsIncomplete → ∀ u, (∃ g, read (s ++ " " ++ u) = .error g) ∧
        ((∀ t ∈ tokens u, ∃ ls, t.lexemes = .ok ls) ∨ f.IsMisspelled →
          read (s ++ " " ++ u) = .error f)) := by
  refine ⟨exists_read_append h, fun hf u => ⟨?_, ?_⟩⟩
  · cases hu : lexemesOf (tokens u) with
    | ok ms => exact ⟨f, read_append_eq_error h hf hu⟩
    | error g =>
      cases hs : lexemesOf (tokens s) with
      | error f' => exact ⟨f', read_append_of_lexemesOf_eq_error hs⟩
      | ok ls =>
        refine ⟨g, ?_⟩
        rw [read, tokens_append, lexemesOf_append, hs, hu]
        rfl
  · rintro (hu | hmis)
    · obtain ⟨ms, hms⟩ := exists_lexemesOf hu
      exact read_append_eq_error h hf hms
    · exact read_append_of_lexemesOf_eq_error (lexemesOf_eq_error_of_isMisspelled h hmis)

/-- An open group that wants an operand can be completed.  An operator that is missing between two labels
stays missing, and so does a parenthesis that stands in the wrong place, whatever follows it. -/
theorem flaw_of_unfinished_and_wrong :
    (∃ u e, read ("( a AND" ++ " " ++ u) = .ok e) ∧
      read ("a b" ++ " " ++ "AND c") = .error (.expectedOperator "b") ∧
      read ("a(b" ++ " " ++ "()") = .error (.malformedToken "a(b") := by
  have hopen : read "( a AND" = .error (.expectedOperand endOfText) := by rfl
  have hlabels : read "a b" = .error (.expectedOperator "b") := by rfl
  have hparen : read "a(b" = .error (.malformedToken "a(b") := by rfl
  refine ⟨(flaw_incomplete_or_final hopen).1 (.inr (.inl rfl)), ?_, ?_⟩
  · have htokens : ∀ t ∈ tokens "AND c", t.lexemes = .ok [.word t.text] := by decide
    exact ((flaw_incomplete_or_final hlabels).2 (by simp [Flaw.IsIncomplete]) "AND c").2
      (.inl fun t ht => ⟨_, htokens t ht⟩)
  · exact ((flaw_incomplete_or_final hparen).2 (by simp [Flaw.IsIncomplete]) "()").2
      (.inr ⟨"a(b", .inl rfl⟩)

end RuleMatching.Expression
