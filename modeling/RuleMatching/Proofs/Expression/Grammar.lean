import RuleMatching.Expression.Reader

/-!
The grammar of expressions over lexemes, and the reader against it.  An expression has one row of
lexemes, `lexemes`.  The reader turns a row into an expression if and only if the expression is
grammatical, has that row and is not nested too deeply: `ofLexemes_eq_ok_iff`.  A grammatical
expression can only be refused for its nesting: `ofLexemes_eq_tooDeep`.
-/

set_option autoImplicit false
set_option relaxedAutoImplicit false

namespace RuleMatching.Expression

def isJoin : Expression → Bool
  | join _ _ _ => true
  | _ => false

/-- The lexemes that an expression is written with. -/
def lexemes : Expression → List Lexeme
  | operand l => [.word l]
  | negation e => .word BoolOperator.not.name :: e.lexemes
  | group e => .opening :: (e.lexemes ++ [.closing])
  | join l o r => l.lexemes ++ .word o.name :: r.lexemes

/-- What the grammar asks of an expression: operators are no labels, NOT stands before an operand
alone, and the operands of a chain are no chains themselves. -/
def Grammatical : Expression → Prop
  | operand l => BoolOperator.ofName? l = none
  | negation e => e.isJoin = false ∧ e.Grammatical
  | group e => e.Grammatical
  | join l o r => o ≠ .not ∧ r.isJoin = false ∧ l.Grammatical ∧ r.Grammatical

/-- The label that a lexeme is, if it is a word and no operator. -/
def Lexeme.label? : Lexeme → Option String
  | word w => if (BoolOperator.ofName? w).isNone then some w else none
  | _ => none

def labelsOf (ls : List Lexeme) : List String := ls.filterMap Lexeme.label?

theorem mem_labelsOf {ls : List Lexeme} {l : String} :
    l ∈ labelsOf ls ↔ .word l ∈ ls ∧ BoolOperator.ofName? l = none := by
  simp only [labelsOf, List.mem_filterMap]
  constructor
  · rintro ⟨lexeme, hmem, hl⟩
    cases lexeme with
    | word w =>
      simp only [Lexeme.label?, Option.ite_none_right_eq_some, Option.some.injEq,
        Option.isNone_iff_eq_none] at hl
      obtain ⟨hw, rfl⟩ := hl
      exact ⟨hmem, hw⟩
    | _ => simp [Lexeme.label?] at hl
  · rintro ⟨hmem, hl⟩
    exact ⟨.word l, hmem, by simp [Lexeme.label?, hl]⟩

@[simp] theorem labelsOf_nil : labelsOf [] = [] := rfl

@[simp] theorem labelsOf_opening (ls : List Lexeme) : labelsOf (.opening :: ls) = labelsOf ls := rfl

@[simp] theorem labelsOf_closing (ls : List Lexeme) : labelsOf (.closing :: ls) = labelsOf ls := rfl

@[simp] theorem labelsOf_append (ls ms : List Lexeme) :
    labelsOf (ls ++ ms) = labelsOf ls ++ labelsOf ms :=
  List.filterMap_append

theorem labelsOf_operator {w : String} {o : BoolOperator} (hw : BoolOperator.ofName? w = some o)
    (ls : List Lexeme) : labelsOf (.word w :: ls) = labelsOf ls :=
  List.filterMap_cons_none (by simp [Lexeme.label?, hw])

theorem labelsOf_label {w : String} (hw : BoolOperator.ofName? w = none) (ls : List Lexeme) :
    labelsOf (.word w :: ls) = w :: labelsOf ls :=
  List.filterMap_cons_some (by simp [Lexeme.label?, hw])

/-- The operands of a grammatical expression are the labels among its lexemes. -/
theorem labelsOf_lexemes {e : Expression} (he : e.Grammatical) : labelsOf e.lexemes = e.operands := by
  induction e with
  | operand l => rw [lexemes, labelsOf_label he, labelsOf_nil, operands]
  | negation e ih => rw [lexemes, labelsOf_operator (BoolOperator.ofName?_name _), ih he.2, operands]
  | group e ih =>
    have hinner : labelsOf e.lexemes = e.operands := ih he
    simp [lexemes, operands, hinner]
  | join l o r ihl ihr =>
    rw [lexemes, labelsOf_append, labelsOf_operator (BoolOperator.ofName?_name o), ihl he.2.2.1,
      ihr he.2.2.2, operands]

theorem lexemes_ne_nil (e : Expression) : e.lexemes ≠ [] := by
  cases e <;> simp [lexemes]

/-- The top of a stack on which a whole expression is read, and not just an operand. -/
def opensLevel : List Frame → Bool
  | [] => true
  | .group :: _ => true
  | _ => false

@[simp] theorem openNesting_nil : openNesting [] = 0 := rfl

@[simp] theorem openNesting_negation (stack : List Frame) :
    openNesting (.negation :: stack) = openNesting stack + 1 :=
  List.countP_cons_of_pos rfl

@[simp] theorem openNesting_group (stack : List Frame) :
    openNesting (.group :: stack) = openNesting stack + 1 :=
  List.countP_cons_of_pos rfl

@[simp] theorem openNesting_join (l : Expression) (o : BoolOperator) (stack : List Frame) :
    openNesting (.join l o :: stack) = openNesting stack :=
  List.countP_cons_of_neg (by simp [Frame.nests])

namespace Reader

theorem run_append (r : Reader) (ls ms : List Lexeme) :
    r.run (ls ++ ms) = (r.run ls).bind fun r' => r'.run ms := by
  induction ls generalizing r with
  | nil => rfl
  | cons l ls ih =>
    simp only [List.cons_append, run]
    cases r.step l with
    | error e => rfl
    | ok r' => exact ih r'

theorem run_singleton (r : Reader) (l : Lexeme) : r.run [l] = r.step l := by
  rw [run]
  cases r.step l <;> rfl

/-- On the ground level of an expression a finished operand waits for an operator. -/
theorem settle_of_opensLevel {stack : List Frame} (h : opensLevel stack = true) (e : Expression) :
    settle e stack = wantsOperator e stack := by
  cases stack with
  | nil => rfl
  | cons frame stack =>
    cases frame with
    | group => rfl
    | negation => simp [opensLevel] at h
    | join l o => simp [opensLevel] at h

theorem step_not (stack : List Frame) :
    (wantsOperand stack).step (.word BoolOperator.not.name) = enter .negation stack := by
  simp [step, BoolOperator.ofName?_name]

theorem step_operator {o : BoolOperator} (ho : o ≠ .not) (e : Expression) (stack : List Frame) :
    (wantsOperator e stack).step (.word o.name) = .ok (wantsOperand (.join e o :: stack)) := by
  have hname := BoolOperator.ofName?_name o
  cases o with
  | not => exact absurd rfl ho
  | _ => simp [step, hname]

theorem enter_of_lt {frame : Frame} {stack : List Frame} (h : openNesting stack < maxNesting) :
    enter frame stack = .ok (wantsOperand (frame :: stack)) := by
  rw [enter, if_neg (Nat.not_le.mpr h)]

theorem enter_eq_ok_iff {frame : Frame} {stack : List Frame} {r : Reader} :
    enter frame stack = .ok r ↔
      openNesting stack < maxNesting ∧ r = wantsOperand (frame :: stack) := by
  rcases Nat.lt_or_ge (openNesting stack) maxNesting with hroom | hfull
  · simp [enter_of_lt hroom, hroom, eq_comm]
  · simp [enter, hfull, Nat.not_lt.mpr hfull]

theorem enter_of_le {frame : Frame} {stack : List Frame} (h : maxNesting ≤ openNesting stack) :
    enter frame stack = .error (.tooDeep maxNesting) := by
  rw [enter, if_pos h]

/-! ### Completeness -/

/-- Reading the lexemes of a grammatical expression settles it on the stack, if there is room for
its nesting. -/
theorem run_lexemes {e : Expression} (he : e.Grammatical) (stack : List Frame)
    (hlevel : e.isJoin = true → opensLevel stack = true)
    (hroom : openNesting stack + e.nesting ≤ maxNesting) (rest : List Lexeme) :
    (wantsOperand stack).run (e.lexemes ++ rest) = (settle e stack).run rest := by
  -- What stands inside a frame is read on a higher stack, so the stack is arbitrary.
  induction e generalizing stack rest with
  | operand l =>
    have hl : BoolOperator.ofName? l = none := he
    simp [lexemes, run, step, hl]
  | negation e ih =>
    obtain ⟨hjoin, he⟩ := he
    simp only [nesting] at hroom
    have hinner := ih he (.negation :: stack) (by simp [hjoin])
      (by rw [openNesting_negation]; omega) rest
    simp only [lexemes, List.cons_append, run, step_not]
    rw [enter_of_lt (by omega)]
    exact hinner
  | group e ih =>
    have he : e.Grammatical := he
    simp only [nesting] at hroom
    have hinner := ih he (.group :: stack) (fun _ => rfl)
      (by rw [openNesting_group]; omega) (.closing :: rest)
    rw [settle_of_opensLevel rfl] at hinner
    simp only [lexemes, List.cons_append, List.append_assoc, List.nil_append, run, step]
    rw [enter_of_lt (by omega)]
    exact hinner
  | join l o r ihl ihr =>
    obtain ⟨ho, hr, hl, hright⟩ := he
    have hstack : opensLevel stack = true := hlevel rfl
    simp only [nesting] at hroom
    have hleft := ihl hl stack (fun _ => hstack) (by omega) (.word o.name :: (r.lexemes ++ rest))
    have hrest := ihr hright (.join l o :: stack) (by simp [hr])
      (by rw [openNesting_join]; omega) rest
    simp only [lexemes, List.append_assoc, List.cons_append]
    rw [hleft, settle_of_opensLevel hstack, settle_of_opensLevel hstack, run, step_operator ho]
    exact hrest

/-- Without room for the nesting of a grammatical expression, reading its lexemes says so. -/
theorem run_lexemes_tooDeep {e : Expression} (he : e.Grammatical) (stack : List Frame)
    (hlevel : e.isJoin = true → opensLevel stack = true)
    (hopen : openNesting stack ≤ maxNesting)
    (hdeep : maxNesting < openNesting stack + e.nesting) (rest : List Lexeme) :
    (wantsOperand stack).run (e.lexemes ++ rest) = .error (.tooDeep maxNesting) := by
  induction e generalizing stack rest with
  | operand l =>
    simp only [nesting] at hdeep
    omega
  | negation e ih =>
    obtain ⟨hjoin, he⟩ := he
    simp only [nesting] at hdeep
    simp only [lexemes, List.cons_append, run, step_not]
    rcases Nat.lt_or_ge (openNesting stack) maxNesting with hroom | hfull
    · rw [enter_of_lt hroom]
      exact ih he (.negation :: stack) (by simp [hjoin])
        (by rw [openNesting_negation]; omega) (by rw [openNesting_negation]; omega) rest
    · rw [enter_of_le hfull]
  | group e ih =>
    have he : e.Grammatical := he
    simp only [nesting] at hdeep
    simp only [lexemes, List.cons_append, List.append_assoc, run, step]
    rcases Nat.lt_or_ge (openNesting stack) maxNesting with hroom | hfull
    · rw [enter_of_lt hroom]
      exact ih he (.group :: stack) (fun _ => rfl)
        (by rw [openNesting_group]; omega) (by rw [openNesting_group]; omega) _
    · rw [enter_of_le hfull]
  | join l o r ihl ihr =>
    obtain ⟨ho, hr, hl, hright⟩ := he
    have hstack : opensLevel stack = true := hlevel rfl
    simp only [nesting] at hdeep
    simp only [lexemes, List.append_assoc, List.cons_append]
    -- Either the left side is too deep already, or it is read and the right side is too deep.
    rcases Nat.lt_or_ge maxNesting (openNesting stack + l.nesting) with hdeepl | hrooml
    · exact ihl hl stack (fun _ => hstack) hopen hdeepl _
    · rw [run_lexemes hl stack (fun _ => hstack) hrooml, settle_of_opensLevel hstack, run,
        step_operator ho]
      exact ihr hright (.join l o :: stack) (by simp [hr])
        (by rw [openNesting_join]; exact hopen) (by rw [openNesting_join]; omega) rest

end Reader

/-! ### Soundness -/

/-- The lexemes that led to a stack; its top was put there last. -/
def stackLexemes : List Frame → List Lexeme
  | [] => []
  | .negation :: stack => stackLexemes stack ++ [.word BoolOperator.not.name]
  | .group :: stack => stackLexemes stack ++ [.opening]
  | .join l o :: stack => stackLexemes stack ++ (l.lexemes ++ [.word o.name])

/-- What holds of the stack of a reader: chains are grammatical and stand on the ground level of an
expression, and nothing is nested too deeply. -/
def StackInv : List Frame → Prop
  | [] => True
  | .negation :: stack => openNesting stack < maxNesting ∧ StackInv stack
  | .group :: stack => openNesting stack < maxNesting ∧ StackInv stack
  | .join l o :: stack =>
      o ≠ .not ∧ l.Grammatical ∧ openNesting stack + l.nesting ≤ maxNesting ∧
        opensLevel stack = true ∧ StackInv stack

namespace Reader

/-- The lexemes that a reader has taken in. -/
def consumed : Reader → List Lexeme
  | wantsOperand stack => stackLexemes stack
  | wantsOperator e stack => stackLexemes stack ++ e.lexemes

/-- What holds of a reader after every lexeme. -/
def Inv : Reader → Prop
  | wantsOperand stack => StackInv stack
  | wantsOperator e stack =>
      e.Grammatical ∧ openNesting stack + e.nesting ≤ maxNesting ∧ opensLevel stack = true ∧
        StackInv stack

theorem openNesting_le_of_inv {stack : List Frame} (h : StackInv stack) :
    openNesting stack ≤ maxNesting := by
  induction stack with
  | nil => simp
  | cons frame stack ih =>
    cases frame with
    | negation => rw [openNesting_negation]; exact h.1
    | group => rw [openNesting_group]; exact h.1
    | join l o => rw [openNesting_join]; exact ih h.2.2.2.2

/-- A settled operand keeps the invariant, and adds its lexemes to those of the stack. -/
theorem inv_settle {stack : List Frame} (hs : StackInv stack) {e : Expression}
    (he : e.Grammatical) (hjoin : e.isJoin = false)
    (hroom : openNesting stack + e.nesting ≤ maxNesting) :
    (settle e stack).Inv ∧ (settle e stack).consumed = stackLexemes stack ++ e.lexemes := by
  -- An operand finishes the negations below it as well: the induction is on the stack.
  induction stack generalizing e with
  | nil => exact ⟨⟨he, hroom, rfl, trivial⟩, rfl⟩
  | cons frame stack ih =>
    cases frame with
    | negation =>
      rw [openNesting_negation] at hroom
      have hnext := ih hs.2 (e := .negation e) ⟨hjoin, he⟩ rfl (by simp only [nesting]; omega)
      refine ⟨hnext.1, ?_⟩
      simpa [settle, stackLexemes, lexemes] using hnext.2
    | group => exact ⟨⟨he, hroom, rfl, hs⟩, rfl⟩
    | join l o =>
      obtain ⟨ho, hl, hlroom, hlevel, hs⟩ := hs
      rw [openNesting_join] at hroom
      refine ⟨⟨⟨ho, hjoin, hl, he⟩, ?_, hlevel, hs⟩, ?_⟩
      · simp only [nesting]
        omega
      · simp [settle, consumed, stackLexemes, lexemes]

/-- One lexeme keeps the invariant and is added to what was taken in. -/
theorem inv_step {r r' : Reader} {l : Lexeme} (hr : r.Inv) (h : r.step l = .ok r') :
    r'.Inv ∧ r'.consumed = r.consumed ++ [l] := by
  cases r with
  | wantsOperand stack =>
    have hs : StackInv stack := hr
    cases l with
    | opening =>
      obtain ⟨hroom, rfl⟩ := enter_eq_ok_iff.mp h
      exact ⟨⟨hroom, hs⟩, rfl⟩
    | closing => simp [step] at h
    | word w =>
      cases hw : BoolOperator.ofName? w with
      | none =>
        simp only [step, hw] at h
        obtain rfl := Except.ok.inj h
        exact inv_settle hs hw rfl (openNesting_le_of_inv hs)
      | some o =>
        obtain rfl := BoolOperator.ofName?_eq_some_iff.mp hw
        cases o with
        | not =>
          rw [step_not] at h
          obtain ⟨hroom, rfl⟩ := enter_eq_ok_iff.mp h
          exact ⟨⟨hroom, hs⟩, rfl⟩
        | _ => simp [step, hw] at h
  | wantsOperator e stack =>
    obtain ⟨he, hroom, hlevel, hs⟩ := hr
    cases l with
    | opening => simp [step] at h
    | closing =>
      cases stack with
      | nil => simp [step] at h
      | cons frame stack =>
        cases frame with
        | group =>
          obtain rfl := Except.ok.inj h
          rw [openNesting_group] at hroom
          have hnext := inv_settle hs.2 (e := .group e) he rfl (by simp only [nesting]; omega)
          refine ⟨hnext.1, ?_⟩
          simpa [consumed, stackLexemes, lexemes] using hnext.2
        | negation => simp [step] at h
        | join l o => simp [step] at h
    | word w =>
      cases hw : BoolOperator.ofName? w with
      | none => simp [step, hw] at h
      | some o =>
        obtain rfl := BoolOperator.ofName?_eq_some_iff.mp hw
        have ho : o ≠ .not := by
          rintro rfl
          simp [step, hw] at h
        rw [step_operator ho] at h
        obtain rfl := Except.ok.inj h
        exact ⟨⟨ho, he, hroom, hlevel, hs⟩, by simp [consumed, stackLexemes]⟩

theorem inv_run {ls : List Lexeme} {r r' : Reader} (hr : r.Inv) (h : r.run ls = .ok r') :
    r'.Inv ∧ r'.consumed = r.consumed ++ ls := by
  induction ls generalizing r with
  | nil =>
    obtain rfl := Except.ok.inj h
    exact ⟨hr, by simp⟩
  | cons l ls ih =>
    cases hl : r.step l with
    | error f => simp [run, hl] at h
    | ok r₁ =>
      simp only [run, hl] at h
      obtain ⟨hr₁, hc₁⟩ := inv_step hr hl
      obtain ⟨hr', hc'⟩ := ih hr₁ h
      exact ⟨hr', by rw [hc', hc₁, List.append_assoc, List.singleton_append]⟩

theorem finish_eq_ok_iff {r : Reader} {e : Expression} :
    r.finish = .ok e ↔ r = wantsOperator e [] := by
  cases r with
  | wantsOperand stack => simp [finish]
  | wantsOperator e' stack => cases stack <;> simp [finish]

end Reader

/-! ### The reader and the grammar -/

/-- The reader accepts lexemes as an expression if and only if the expression is grammatical, not
nested too deeply, and written with these lexemes. -/
theorem ofLexemes_eq_ok_iff {ls : List Lexeme} {e : Expression} :
    ofLexemes ls = .ok e ↔ e.Grammatical ∧ e.nesting ≤ maxNesting ∧ e.lexemes = ls := by
  constructor
  · intro h
    unfold ofLexemes at h
    split at h
    · simp at h
    · cases hrun : Reader.start.run ls with
      | error f => simp [hrun] at h
      | ok r =>
        simp only [hrun] at h
        obtain rfl := Reader.finish_eq_ok_iff.mp h
        obtain ⟨⟨he, hroom, -, -⟩, hconsumed⟩ :=
          Reader.inv_run (r := Reader.start) (show StackInv [] from trivial) hrun
        rw [openNesting_nil, Nat.zero_add] at hroom
        exact ⟨he, hroom, hconsumed⟩
  · rintro ⟨he, hroom, rfl⟩
    have hrun := Reader.run_lexemes he [] (fun _ => rfl)
      (by rw [openNesting_nil, Nat.zero_add]; exact hroom) []
    rw [List.append_nil] at hrun
    rw [ofLexemes, if_neg (lexemes_ne_nil e), Reader.start, hrun]
    rfl

/-- The reader refuses the lexemes of a grammatical expression that is nested too deeply as such. -/
theorem ofLexemes_eq_tooDeep {e : Expression} (he : e.Grammatical)
    (hdeep : maxNesting < e.nesting) : ofLexemes e.lexemes = .error (.tooDeep maxNesting) := by
  have hrun := Reader.run_lexemes_tooDeep he [] (fun _ => rfl)
    (Nat.zero_le _) (by rw [openNesting_nil, Nat.zero_add]; exact hdeep) []
  rw [List.append_nil] at hrun
  rw [ofLexemes, if_neg (lexemes_ne_nil e), Reader.start, hrun]

end RuleMatching.Expression
