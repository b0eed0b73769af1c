import RuleMatching.Proofs.Pattern.Parts

/-!
Reading a text to its end.  What is in front of a bar is read as it is without the bar and what stands
behind, unless a comment takes the bar in: `Reads.bar`.  What a reader has read before, in the outermost
group, stays as it is while it reads on: `Reads.of_on`.
-/

set_option autoImplicit false
set_option relaxedAutoImplicit false

namespace RuleMatching.Pattern

/-- Reading a text to its end leads from one reader to another. -/
inductive Reads : Reader → List Char → Reader → Prop
  | done {r : Reader} {cs : List Char} (hskip : r.flags.skip cs = []) : Reads r cs r
  | step {r r₁ r₂ : Reader} {c : Char} {cs ds rest : List Char} (hskip : r.flags.skip cs = c :: ds)
      (hread : readOn r c ds = some (r₁, rest)) (hrest : Reads r₁ rest r₂) : Reads r cs r₂

/-- The reader at the end of a text; `fuel` bounds the number of steps. -/
def Reader.atEnd? : Nat → Reader → List Char → Option Reader
  | 0, _, _ => none
  | fuel + 1, r, cs =>
      match r.flags.skip cs with
      | [] => some r
      | c :: rest => do
          let (r, rest) ← readOn r c rest
          atEnd? fuel r rest

variable {r r₁ r₂ : Reader} {c : Char} {cs ds rest : List Char}

theorem Reads.step_iff (hskip : r.flags.skip cs = c :: ds) (hread : readOn r c ds = some (r₁, rest)) :
    Reads r cs r₂ ↔ Reads r₁ rest r₂ := by
  constructor
  · intro h
    cases h with
    | done hskip' => simp [hskip] at hskip'
    | step hskip' hread' hrest =>
      obtain ⟨rfl, rfl⟩ := List.cons.inj (hskip.symm.trans hskip')
      obtain ⟨rfl, rfl⟩ := Prod.mk.inj (Option.some.inj (hread.symm.trans hread'))
      exact hrest
  · exact .step hskip hread

/-- What is skipped or read is not read again. -/
theorem length_lt_of_readOn (hskip : r.flags.skip cs = c :: ds)
    (hread : readOn r c ds = some (r₁, rest)) : rest.length < cs.length := by
  have hds := (hskip ▸ skip_suffix r.flags cs).length_le
  have hrest := (stopsAtBar_readOn r₁ rest hread).1.length_le
  rw [List.length_cons] at hds
  omega

theorem atEnd?_eq_some_iff {fuel : Nat} (hfuel : cs.length < fuel) :
    Reader.atEnd? fuel r cs = some r₁ ↔ Reads r cs r₁ := by
  induction fuel generalizing r cs with
  | zero => exact absurd hfuel (Nat.not_lt_zero _)
  | succ fuel ih =>
    have hbehind : ∀ {c ds r₂ rest}, r.flags.skip cs = c :: ds → readOn r c ds = some (r₂, rest) →
        rest.length < fuel := by
      intro c ds r₂ rest hskip hread
      have := length_lt_of_readOn hskip hread
      omega
    rw [Reader.atEnd?]
    constructor
    · intro h
      split at h
      · rename_i hskip
        obtain rfl := Option.some.inj h
        exact .done hskip
      · rename_i hskip
        obtain ⟨⟨r₂, rest⟩, hread, h⟩ := Option.bind_eq_some_iff.mp h
        exact .step hskip hread ((ih (hbehind hskip hread)).mp h)
    · intro h
      cases h with
      | done hskip => simp only [hskip]
      | step hskip hread hrest =>
        simp only [hskip, hread]
        exact (ih (hbehind hskip hread)).mpr hrest

theorem readParts_eq {fuel : Nat} :
    readParts fuel r cs = (Reader.atEnd? fuel r cs).bind Reader.finish := by
  induction fuel generalizing r cs with
  | zero => rfl
  | succ fuel ih =>
    rw [readParts, Reader.atEnd?]
    cases r.flags.skip cs with
    | nil => rfl
    | cons c rest =>
      simp only
      cases readOn r c rest with
      | none => rfl
      | some y => exact ih

/-! ### In front of a bar -/

/-- Goes on with a further alternative. -/
def Reader.next (r : Reader) : Reader := { r with level := r.level.next }

/-- Reading a text with a bar behind it goes on behind the bar with a further alternative, unless a comment
takes the bar in. -/
theorem Reads.bar (h : Reads r cs r₁) :
    (∀ t r₂, Reads r (cs ++ '|' :: t) r₂ ↔ Reads r₁.next t r₂) ∨ Reads r (cs ++ ['|']) r₁ := by
  induction h with
  | @done r cs hskip =>
    obtain hbar | ⟨-, hbar⟩ := skip_bar r.flags cs
    · refine .inl fun t r₂ => ?_
      have hskip' : r.flags.skip (cs ++ '|' :: t) = '|' :: t := by
        rw [hbar, hskip, List.nil_append]
      exact step_iff hskip' rfl
    · exact .inr (.done hbar)
  | @step r r₁ r₂ c cs ds rest hskip hread hrest ih =>
    have hskip' := fun t => skip_append_of_cons (t := t) hskip
    obtain ⟨-, hbar | ⟨rfl, hbar⟩⟩ := stopsAtBar_readOn r₁ rest hread
    -- A comment can take the bar in behind this part, or behind a later one.
    · refine ih.imp (fun ih t r₃ => ?_) fun ih => .step (hskip' []) (hbar []) ih
      rw [step_iff (hskip' t) (hbar t)]
      exact ih t r₃
    · exact .inr (.step (hskip' []) hbar hrest)

/-! ### On top of what was read before -/

variable {before : List (Node × Nat)} {names : List (List Char)}

/-- A group in which alternatives have been read before, the last of them in front. -/
def Level.on (before : List (Node × Nat)) (level : Level) : Level :=
  { level with branches := level.branches ++ before }

/-- The group being read and those around it, if alternatives of the outermost have been read before. -/
def onBottom (before : List (Node × Nat)) : Level → List Surrounding → Level × List Surrounding
  | level, [] => (level.on before, [])
  | level, outer :: stack =>
      let below := onBottom before outer.level stack
      (level, { outer with level := below.1 } :: below.2)

/-- The reader that has read alternatives before, and names of groups in them. -/
def Reader.on (before : List (Node × Nat)) (names : List (List Char)) (r : Reader) : Reader :=
  let levels := onBottom before r.level r.stack
  ⟨r.flags, levels.1, levels.2, r.names ++ names⟩

theorem onBottom_parts {level : Level} {stack : List Surrounding} :
    (onBottom before level stack).1.parts = level.parts := by
  cases stack <;> rfl

/-- What is done in the group being read is done on top of what was read before. -/
theorem onBottom_apply {g : Level → Level} (hg : ∀ level : Level, g (level.on before) = (g level).on before)
    {level : Level} {stack : List Surrounding} : onBottom before (g level) stack =
      (g (onBottom before level stack).1, (onBottom before level stack).2) := by
  cases stack with
  | nil => rw [onBottom, onBottom, hg]
  | cons outer stack => rfl

theorem Reader.add_on {part : Part} :
    (r.on before names).add part = (r.add part).on before names := by
  simp only [Reader.add, Reader.on, onBottom_apply (g := (Level.add · part)) fun _ => rfl]

theorem Reader.next_on : (r.on before names).next = r.next.on before names := by
  simp only [Reader.next, Reader.on, onBottom_apply (g := Level.next) fun _ => rfl]

/-- Reading one reader on leads to the same rest as reading another on, and to the reader on top of what was
read before. -/
def StaysOn (before : List (Node × Nat)) (names : List (List Char))
    (o o' : Option (Reader × List Char)) : Prop :=
  ∀ q rest, o' = some (q, rest) → ∃ r, o = some (r, rest) ∧ q = r.on before names

theorem staysOn_some : StaysOn before names (some (r, cs)) (some (r.on before names, cs)) := by
  rintro q rest h
  obtain ⟨rfl, rfl⟩ := Prod.mk.inj (Option.some.inj h)
  exact ⟨r, rfl, rfl⟩

theorem staysOn_add {part : Part} :
    StaysOn before names (some (r.add part, cs)) (some ((r.on before names).add part, cs)) := by
  rw [Reader.add_on]
  exact staysOn_some

theorem staysOn_none {o : Option (Reader × List Char)} : StaysOn before names o none := by
  rintro q rest h
  cases h

theorem StaysOn.value {α : Type} {o : Option α} {k k' : α → Option (Reader × List Char)}
    (h : ∀ a, StaysOn before names (k a) (k' a)) :
    StaysOn before names (o.bind k) (o.bind k') := by
  cases o with
  | none => exact staysOn_none
  | some a => exact h a

theorem staysOn_map_add {α : Type} {o : Option α} {part : α → Part} :
    StaysOn before names (o.map fun a => (r.add (part a), cs))
      (o.map fun a => ((r.on before names).add (part a), cs)) := by
  cases o with
  | none => exact staysOn_none
  | some a => exact staysOn_add

theorem Reader.closeGroup_on :
    (r.on before names).closeGroup = r.closeGroup.map (Reader.on before names) := by
  obtain ⟨flags, level, stack, seen⟩ := r
  cases stack with
  | nil => rfl
  | cons outer stack =>
    simp only [Reader.closeGroup, Reader.on, onBottom, Option.map_some]
    rw [onBottom_apply (g := (Level.add · _)) fun _ => rfl]

theorem staysOn_repeatLast {least : Nat} {most : Option Nat} :
    StaysOn before names (r.repeatLast least most cs)
      ((r.on before names).repeatLast least most cs) := by
  have hparts : (r.on before names).level.parts = r.level.parts := onBottom_parts
  unfold Reader.repeatLast
  rw [hparts]
  cases hr : r.level.parts with
  | nil => exact staysOn_none
  | cons part parts =>
    cases part with
    | setting => exact staysOn_none
    | node n d =>
      have hlevel := fun part : Part => @onBottom_apply before
        (fun level => { level with parts := part :: parts }) (fun _ => rfl) r.level r.stack
      rintro q rest h
      obtain ⟨rfl, rfl⟩ := Prod.mk.inj (Option.some.inj h)
      refine ⟨_, rfl, ?_⟩
      simp only [Reader.on, hlevel]

theorem staysOn_openNamed : StaysOn before names (openNamed r cs) (openNamed (r.on before names) cs) := by
  refine .value fun ⟨name, rest⟩ => ?_
  have hnames : (r.on before names).names = r.names ++ names := rfl
  rintro q rest' h
  obtain ⟨hfresh, h⟩ := Option.ite_none_left_eq_some.mp h
  rw [hnames, List.contains_append, Bool.or_eq_true, not_or] at hfresh
  obtain ⟨rfl, rfl⟩ := Prod.mk.inj (Option.some.inj h)
  exact ⟨_, if_neg hfresh.1, rfl⟩

theorem staysOn_openSet {settings : List (FlagName × Bool)} :
    StaysOn before names (openSet r settings cs) (openSet (r.on before names) settings cs) := by
  unfold openSet
  split
  · split
    · exact staysOn_none
    · rintro q rest h
      obtain ⟨rfl, rfl⟩ := Prod.mk.inj (Option.some.inj h)
      refine ⟨_, rfl, ?_⟩
      rw [Reader.add_on]
      rfl
  · exact staysOn_some
  · exact staysOn_none

theorem staysOn_readGroup : StaysOn before names (readGroup r cs) (readGroup (r.on before names) cs) := by
  unfold readGroup
  split
  · exact staysOn_none
  · exact staysOn_none
  · exact staysOn_none
  · exact staysOn_none
  · exact staysOn_openNamed
  · exact staysOn_openNamed
  · exact .value fun y => show StaysOn before names (openSet r y.1 y.2) (openSet _ y.1 y.2) from
      staysOn_openSet
  · exact staysOn_some

theorem staysOn_readEscaped :
    StaysOn before names (readEscaped r cs) (readEscaped (r.on before names) cs) := by
  refine .value fun ⟨unit, rest⟩ => ?_
  cases unit with
  | literal c byte => exact .value fun n => staysOn_add
  | set s => exact staysOn_add
  | look l => exact staysOn_add

theorem staysOn_readOn : StaysOn before names (readOn r c cs) (readOn (r.on before names) c cs) := by
  unfold readOn
  split
  · exact staysOn_readGroup
  · rw [Reader.closeGroup_on]
    cases r.closeGroup with
    | none => exact staysOn_none
    | some r₁ => exact staysOn_some
  · have hnext : StaysOn before names (some (r.next, cs)) (some ((r.on before names).next, cs)) := by
      rw [Reader.next_on]
      exact staysOn_some
    exact hnext
  · exact .value fun y => staysOn_add
  · exact staysOn_repeatLast
  · exact staysOn_repeatLast
  · exact staysOn_repeatLast
  · exact .value fun y => staysOn_repeatLast
  · exact staysOn_readEscaped
  · exact staysOn_map_add
  · exact staysOn_add
  · exact staysOn_add
  · exact staysOn_map_add

/-- Reading on keeps what was read before, and reads what it would read without that. -/
theorem Reads.of_on (h : Reads (r.on before names) cs r₁) :
    ∃ r₂, Reads r cs r₂ ∧ r₁ = r₂.on before names := by
  -- The induction is on the run of the reader on top, and the other reader follows it step by step.
  generalize hr : r.on before names = q at h
  induction h generalizing r with
  | done hskip =>
    subst hr
    exact ⟨r, .done hskip, rfl⟩
  | step hskip hread hrest ih =>
    subst hr
    obtain ⟨r₂, hread', rfl⟩ := staysOn_readOn _ _ hread
    obtain ⟨r₃, hreads, rfl⟩ := ih rfl
    exact ⟨r₃, .step hskip hread' hreads, rfl⟩

end RuleMatching.Pattern
