/-!
What a call of code from outside the library comes to: a value, or a fault that ends the
computation it occurs in.  Faults are kept apart from errors, which are values, so that every place
where a fault stops can be seen in a type.
-/

set_option autoImplicit false
set_option relaxedAutoImplicit false

namespace RuleMatching

/-- A value, or a fault. -/
inductive Outcome (α : Type) where
  | value (a : α)
  | fault
  deriving DecidableEq, Repr

namespace Outcome

/-- Goes on with the value; a fault stays a fault. -/
def andThen {α β : Type} (o : Outcome α) (f : α → Outcome β) : Outcome β :=
  match o with
  | value a => f a
  | fault => fault

instance : Monad Outcome where
  pure := value
  bind := andThen

/-- The value, or a given one in place of a fault. -/
def getD {α : Type} (o : Outcome α) (d : α) : α :=
  match o with
  | value a => a
  | fault => d

def isFault {α : Type} : Outcome α → Bool
  | value _ => false
  | fault => true

@[simp] theorem andThen_value {α β : Type} (a : α) (f : α → Outcome β) :
    (value a).andThen f = f a := rfl

@[simp] theorem andThen_fault {α β : Type} (f : α → Outcome β) :
    (fault : Outcome α).andThen f = fault := rfl

@[simp] theorem pure_eq {α : Type} (a : α) : (pure a : Outcome α) = value a := rfl

@[simp] theorem bind_eq {α β : Type} (o : Outcome α) (f : α → Outcome β) :
    (o >>= f) = o.andThen f := rfl

@[simp] theorem map_eq {α β : Type} (o : Outcome α) (f : α → β) :
    (f <$> o) = o.andThen fun a => value (f a) := rfl

instance : LawfulMonad Outcome :=
  LawfulMonad.mk' Outcome
    (by intro α x; cases x <;> rfl)
    (by intro α β x f; rfl)
    (by intro α β γ x f g; cases x <;> rfl)

theorem andThen_eq_value_iff {α β : Type} {o : Outcome α} {f : α → Outcome β} {b : β} :
    o.andThen f = value b ↔ ∃ a, o = value a ∧ f a = value b := by
  cases o <;> simp

@[simp] theorem isFault_value {α : Type} (a : α) : (value a).isFault = false := rfl

@[simp] theorem isFault_fault {α : Type} : (fault : Outcome α).isFault = true := rfl

theorem isFault_iff {α : Type} {o : Outcome α} : o.isFault = true ↔ o = fault := by
  cases o <;> simp

/-- Applies a function to each element in order, up to the first fault. -/
def forEach {α β : Type} (f : α → Outcome β) : List α → Outcome (List β)
  | [] => value []
  | a :: as => (f a).andThen fun b => (forEach f as).andThen fun bs => value (b :: bs)

/-- Each of the values is the one for some element. -/
theorem exists_of_mem_forEach {α β : Type} {f : α → Outcome β} {as : List α} {bs : List β}
    (h : forEach f as = value bs) {b : β} (hb : b ∈ bs) : ∃ a ∈ as, f a = value b := by
  induction as generalizing bs with
  | nil =>
    obtain rfl : [] = bs := value.inj h
    simp at hb
  | cons a as ih =>
    rw [forEach] at h
    obtain ⟨c, hc, h⟩ := andThen_eq_value_iff.mp h
    obtain ⟨cs, hcs, h⟩ := andThen_eq_value_iff.mp h
    obtain rfl : c :: cs = bs := value.inj h
    rcases List.mem_cons.mp hb with rfl | hb
    · exact ⟨a, List.mem_cons_self, hc⟩
    · obtain ⟨d, hd, hfd⟩ := ih hcs hb
      exact ⟨d, List.mem_cons_of_mem a hd, hfd⟩

/-- There is no fault if there is none for any element. -/
theorem exists_forEach_eq_value {α β : Type} {f : α → Outcome β} {as : List α}
    (h : ∀ a ∈ as, ∃ b, f a = value b) : ∃ bs, forEach f as = value bs := by
  induction as with
  | nil => exact ⟨[], rfl⟩
  | cons a as ih =>
    obtain ⟨b, hb⟩ := h a List.mem_cons_self
    obtain ⟨bs, hbs⟩ := ih fun c hc => h c (List.mem_cons_of_mem a hc)
    exact ⟨b :: bs, by rw [forEach, hb, andThen_value, hbs, andThen_value]⟩

end Outcome

end RuleMatching
