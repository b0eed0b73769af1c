import RuleMatching.Proofs.Expression.Grammar

/-!
The groups that a reader has open.  Opening parentheses are taken in only before an operand and
closing ones only behind one, `run_opens` and `run_closes`, so that the number of open groups is
the number of parentheses opened and not yet closed.
-/

set_option autoImplicit false
set_option relaxedAutoImplicit false

namespace RuleMatching.Expression

def Frame.isGroup : Frame → Bool
  | group => true
  | _ => false

/-- The number of groups that are open. -/
def openGroups (stack : List Frame) : Nat := stack.countP Frame.isGroup

@[simp] theorem openGroups_nil : openGroups [] = 0 := rfl

@[simp] theorem openGroups_group (stack : List Frame) :
    openGroups (.group :: stack) = openGroups stack + 1 :=
  List.countP_cons_of_pos rfl

@[simp] theorem openGroups_negation (stack : List Frame) :
    openGroups (.negation :: stack) = openGroups stack :=
  List.countP_cons_of_neg (by simp [Frame.isGroup])

@[simp] theorem openGroups_join (l : Expression) (o : BoolOperator) (stack : List Frame) :
    openGroups (.join l o :: stack) = openGroups stack :=
  List.countP_cons_of_neg (by simp [Frame.isGroup])

namespace Reader

/-- What is open in a reader. -/
def stack : Reader → List Frame
  | wantsOperand stack => stack
  | wantsOperator _ stack => stack

/-- Whether a reader waits for an operator. -/
def isAfterOperand : Reader → Bool
  | wantsOperand _ => false
  | wantsOperator _ _ => true

theorem exists_settle (e : Expression) (stack : List Frame) :
    ∃ e' stack', settle e stack = wantsOperator e' stack' ∧
      openGroups stack' = openGroups stack := by
  induction stack generalizing e with
  | nil => exact ⟨e, [], rfl, rfl⟩
  | cons frame stack ih =>
    cases frame with
    | negation =>
      obtain ⟨e', stack', hsettle, hgroups⟩ := ih (.negation e)
      exact ⟨e', stack', hsettle, by rw [hgroups, openGroups_negation]⟩
    | group => exact ⟨e, _, rfl, rfl⟩
    | join l o => exact ⟨_, stack, rfl, by rw [openGroups_join]⟩

/-- Opening parentheses are accepted only before an operand, and open groups. -/
theorem run_opens {r r' : Reader} {n : Nat}
    (h : r.run (List.replicate n .opening) = .ok r') :
    r'.isAfterOperand = r.isAfterOperand ∧ openGroups r'.stack = openGroups r.stack + n ∧
      (r.isAfterOperand = true → n = 0 ∧ r' = r) := by
  induction n generalizing r with
  | zero =>
    obtain rfl := Except.ok.inj h
    simp
  | succ n ih =>
    cases r with
    | wantsOperator e stack => simp [List.replicate_succ, run, step] at h
    | wantsOperand stack =>
      simp only [List.replicate_succ, run, step] at h
      cases hroom : enter .group stack with
      | error f => simp [hroom] at h
      | ok r₁ =>
        simp only [hroom] at h
        obtain ⟨-, rfl⟩ := enter_eq_ok_iff.mp hroom
        obtain ⟨hafter, hgroups, -⟩ := ih h
        refine ⟨hafter, ?_, by simp [isAfterOperand]⟩
        rw [hgroups]
        simp only [Reader.stack, openGroups_group]
        omega

/-- Closing parentheses are accepted only behind an operand, and close groups. -/
theorem run_closes {r r' : Reader} {n : Nat}
    (h : r.run (List.replicate n .closing) = .ok r') :
    r'.isAfterOperand = r.isAfterOperand ∧ openGroups r.stack = openGroups r'.stack + n ∧
      (r.isAfterOperand = false → n = 0) := by
  induction n generalizing r with
  | zero =>
    obtain rfl := Except.ok.inj h
    simp
  | succ n ih =>
    cases r with
    | wantsOperand stack => simp [List.replicate_succ, run, step] at h
    | wantsOperator e stack =>
      cases stack with
      | nil => simp [List.replicate_succ, run, step] at h
      | cons frame stack =>
        cases frame with
        | negation => simp [List.replicate_succ, run, step] at h
        | join l o => simp [List.replicate_succ, run, step] at h
        | group =>
          simp only [List.replicate_succ, run, step] at h
          obtain ⟨e', stack', hsettle, hsame⟩ := exists_settle (.group e) stack
          rw [hsettle] at h
          obtain ⟨hafter, hgroups, -⟩ := ih h
          refine ⟨hafter, ?_, by simp [isAfterOperand]⟩
          simp only [Reader.stack, openGroups_group] at hgroups ⊢
          omega

/-- A word is taken in as a label or as NOT before an operand, and as another operator behind one.
No group is opened or closed. -/
theorem step_word_cases {r r' : Reader} {w : String} (h : r.step (.word w) = .ok r') :
    openGroups r'.stack = openGroups r.stack ∧
      ((r.isAfterOperand = false ∧ BoolOperator.ofName? w = none ∧ r'.isAfterOperand = true) ∨
        (r.isAfterOperand = false ∧ BoolOperator.ofName? w = some .not ∧
          r'.isAfterOperand = false) ∨
        (r.isAfterOperand = true ∧ (∃ o, o ≠ .not ∧ BoolOperator.ofName? w = some o) ∧
          r'.isAfterOperand = false)) := by
  cases r with
  | wantsOperand stack =>
    cases hw : BoolOperator.ofName? w with
    | none =>
      simp only [step, hw] at h
      obtain rfl := Except.ok.inj h
      obtain ⟨e', stack', hsettle, hsame⟩ := exists_settle (.operand w) stack
      rw [hsettle]
      exact ⟨hsame, .inl ⟨rfl, rfl, rfl⟩⟩
    | some o =>
      cases o with
      | not =>
        simp only [step, hw] at h
        obtain ⟨-, rfl⟩ := enter_eq_ok_iff.mp h
        exact ⟨openGroups_negation stack, .inr (.inl ⟨rfl, rfl, rfl⟩)⟩
      | _ => simp [step, hw] at h
  | wantsOperator e stack =>
    cases hw : BoolOperator.ofName? w with
    | none => simp [step, hw] at h
    | some o =>
      have ho : o ≠ .not := by
        rintro rfl
        simp [step, hw] at h
      obtain rfl := BoolOperator.ofName?_eq_some_iff.mp hw
      rw [step_operator ho] at h
      obtain rfl := Except.ok.inj h
      exact ⟨openGroups_join e o stack, .inr (.inr ⟨rfl, ⟨o, ho, rfl⟩, rfl⟩)⟩

end Reader

end RuleMatching.Expression
