import RuleMatching.Pattern.Program

/-!
What patterns mean.  A pattern leads from a place in a text to the places where a match that starts there
may end, and the steps of its program do the same: a thread at the first of them can be brought to an end
just if the pattern leads to a place from which a thread behind the last of them can: `follows`.
-/

set_option autoImplicit false
set_option relaxedAutoImplicit false

namespace RuleMatching.Pattern

/-- A place in a text: the character before it, if there is one, and the text behind it. -/
structure Place where
  before : Option Char
  rest : List Char

/-- A relation applied a number of times. -/
def Times (R : Place → Place → Prop) : Nat → Place → Place → Prop
  | 0, x, y => x = y
  | n + 1, x, y => ∃ z, R x z ∧ Times R n z y

/-- A pattern matches the text from one place to another. -/
def Node.Matches : Node → Place → Place → Prop
  | empty, x, y => x = y
  | one s, x, y => ∃ c cs, x.rest = c :: cs ∧ s.holds c.toNat = true ∧ y = ⟨some c, cs⟩
  | look l, x, y => l.holds x.before x.rest.head? = true ∧ x = y
  | concat a b, x, y => ∃ z, a.Matches x z ∧ b.Matches z y
  | either a b, x, y => a.Matches x y ∨ b.Matches x y
  | repetition least most _ a, x, y =>
      ∃ n, least ≤ n ∧ (∀ m, most = some m → n ≤ max least m) ∧ Times a.Matches n x y
  | group _ a, x, y => a.Matches x y

/-- A choice matches what one of its alternatives matches. -/
theorem Node.matches_choice {ns : List Node} (hne : ns ≠ []) {x y : Place} :
    (choice ns).Matches x y ↔ ∃ n ∈ ns, n.Matches x y := by
  induction ns with
  | nil => exact absurd rfl hne
  | cons a ns ih =>
    cases ns with
    | nil => simp [choice]
    | cons b ns => simp [choice, Matches, ih]

theorem times_add {R : Place → Place → Prop} {m n : Nat} {x y : Place} :
    Times R (m + n) x y ↔ ∃ z, Times R m x z ∧ Times R n z y := by
  induction m generalizing x with
  | zero => simp [Times]
  | succ m ih =>
    rw [Nat.succ_add]
    simp only [Times, ih]
    exact ⟨fun ⟨w, hw, z, hm, hn⟩ => ⟨z, ⟨w, hw, hm⟩, hn⟩, fun ⟨z, ⟨w, hw, hm⟩, hn⟩ => ⟨w, hw, z, hm, hn⟩⟩

/-- A thread at a step can be brought to the end of a program in a number of steps. -/
inductive Program.Ends (p : Program) : Nat → Place → Nat → Prop
  | done {k i : Nat} {x : Place} (h : p[i]? = none) : Ends p k x i
  | read {k i : Nat} {b : Option Char} {c : Char} {cs : List Char} {s : CharSet}
      (h : p[i]? = some (.read s)) (hc : s.holds c.toNat = true)
      (hbehind : Ends p k ⟨some c, cs⟩ (i + 1)) : Ends p (k + 1) ⟨b, c :: cs⟩ i
  | look {k i : Nat} {x : Place} {l : Look} (h : p[i]? = some (.look l))
      (hl : l.holds x.before x.rest.head? = true) (hbehind : Ends p k x (i + 1)) : Ends p (k + 1) x i
  | jump {k i j : Nat} {x : Place} (h : p[i]? = some (.jump j)) (hj : Ends p k x j) :
      Ends p (k + 1) x i
  | first {k i a b : Nat} {x : Place} (h : p[i]? = some (.fork a b)) (ha : Ends p k x a) :
      Ends p (k + 1) x i
  | second {k i a b : Nat} {x : Place} (h : p[i]? = some (.fork a b)) (hb : Ends p k x b) :
      Ends p (k + 1) x i

/-- A thread at a step can be brought to the end of a program. -/
def Program.Accepts (p : Program) (x : Place) (i : Nat) : Prop := ∃ k, p.Ends k x i

/-- The steps from one number to another realize a relation between places: from a place at the first
there is an end just if there is one at the other from some place that is related to it.  The way from
there is not longer, which makes an induction on its length go through. -/
structure Program.Realizes (p : Program) (start stop : Nat) (R : Place → Place → Prop) : Prop where
  sound : ∀ {k x}, p.Ends k x start → ∃ y m, m ≤ k ∧ R x y ∧ p.Ends m y stop
  complete : ∀ {x y}, R x y → p.Accepts y stop → p.Accepts x start

namespace Program

variable {p : Program} {i j k start middle stop : Nat} {R S : Place → Place → Prop} {x y : Place}

theorem Realizes.of_iff (h : p.Realizes start stop R) (hiff : ∀ x y, R x y ↔ S x y) :
    p.Realizes start stop S := by
  obtain rfl : R = S := funext fun x => funext fun y => propext (hiff x y)
  exact h

theorem Realizes.refl : p.Realizes i i Eq where
  sound h := ⟨_, _, Nat.le_refl _, rfl, h⟩
  complete := by
    rintro x y rfl h
    exact h

theorem Realizes.comp (hR : p.Realizes start middle R) (hS : p.Realizes middle stop S) :
    p.Realizes start stop fun x y => ∃ z, R x z ∧ S z y where
  sound h := by
    obtain ⟨z, m, hm, hxz, hz⟩ := hR.sound h
    obtain ⟨y, n, hn, hzy, hy⟩ := hS.sound hz
    exact ⟨y, n, Nat.le_trans hn hm, ⟨z, hxz, hzy⟩, hy⟩
  complete := by
    rintro x y ⟨z, hxz, hzy⟩ h
    exact hR.complete hxz (hS.complete hzy h)

/-! ### Single steps -/

theorem ends_fork {a b : Nat} (h : p[i]? = some (.fork a b)) :
    p.Ends k x i ↔ ∃ m, k = m + 1 ∧ (p.Ends m x a ∨ p.Ends m x b) := by
  constructor
  · intro hends
    cases hends with
    | first hi ha =>
      obtain ⟨rfl, rfl⟩ := Step.fork.inj (Option.some.inj (h.symm.trans hi))
      exact ⟨_, rfl, .inl ha⟩
    | second hi hb =>
      obtain ⟨rfl, rfl⟩ := Step.fork.inj (Option.some.inj (h.symm.trans hi))
      exact ⟨_, rfl, .inr hb⟩
    | _ hi => simp [h] at hi
  · rintro ⟨m, rfl, ha | hb⟩
    · exact .first h ha
    · exact .second h hb

/-- Which of its two ways a turn prefers does not matter for where it leads. -/
theorem ends_turn {greedy : Bool} {again leave : Nat} (h : p[i]? = some (.turn greedy again leave)) :
    p.Ends k x i ↔ ∃ m, k = m + 1 ∧ (p.Ends m x again ∨ p.Ends m x leave) := by
  cases greedy with
  | true => exact ends_fork h
  | false =>
    rw [ends_fork h]
    simp only [or_comm]

theorem accepts_turn {greedy : Bool} {again leave : Nat} (h : p[i]? = some (.turn greedy again leave)) :
    p.Accepts x i ↔ p.Accepts x again ∨ p.Accepts x leave := by
  unfold Accepts
  simp only [ends_turn h]
  constructor
  · rintro ⟨k, m, rfl, ha | hl⟩
    · exact .inl ⟨m, ha⟩
    · exact .inr ⟨m, hl⟩
  · rintro (⟨m, ha⟩ | ⟨m, hl⟩)
    · exact ⟨_, m, rfl, .inl ha⟩
    · exact ⟨_, m, rfl, .inr hl⟩

theorem Realizes.read {s : CharSet} (h : p[i]? = some (.read s)) :
    p.Realizes i (i + 1) (Node.one s).Matches where
  sound {k x} hends := by
    cases hends with
    | read hi hc hbehind =>
      obtain rfl := Step.read.inj (Option.some.inj (h.symm.trans hi))
      exact ⟨_, _, Nat.le_succ _, ⟨_, _, rfl, hc, rfl⟩, hbehind⟩
    | _ hi => simp [h] at hi
  complete := by
    rintro ⟨b, rest⟩ y ⟨c, cs, rfl, hc, rfl⟩ ⟨k, hk⟩
    exact ⟨_, .read h hc hk⟩

theorem Realizes.look {l : Look} (h : p[i]? = some (.look l)) :
    p.Realizes i (i + 1) (Node.look l).Matches where
  sound hends := by
    cases hends with
    | look hi hl hbehind =>
      obtain rfl := Step.look.inj (Option.some.inj (h.symm.trans hi))
      exact ⟨_, _, Nat.le_succ _, ⟨hl, rfl⟩, hbehind⟩
    | _ hi => simp [h] at hi
  complete := by
    rintro x y ⟨hl, rfl⟩ ⟨k, hk⟩
    exact ⟨_, .look h hl hk⟩

theorem Realizes.jump (h : p[i]? = some (.jump j)) : p.Realizes i j Eq where
  sound hends := by
    cases hends with
    | jump hi hj =>
      obtain rfl := Step.jump.inj (Option.some.inj (h.symm.trans hi))
      exact ⟨_, _, Nat.le_succ _, rfl, hj⟩
    | _ hi => simp [h] at hi
  complete := by
    rintro x y rfl ⟨k, hk⟩
    exact ⟨_, .jump h hk⟩

/-! ### Turns -/

/-- A turn to what can be left out. -/
theorem Realizes.turn {greedy : Bool} {again leave : Nat}
    (h : p[i]? = some (.turn greedy again leave)) (hR : p.Realizes again stop R)
    (hS : p.Realizes leave stop S) : p.Realizes i stop fun x y => R x y ∨ S x y where
  sound hends := by
    obtain ⟨m, rfl, hends | hends⟩ := (ends_turn h).mp hends
    · obtain ⟨y, n, hn, hR, hy⟩ := hR.sound hends
      exact ⟨y, n, Nat.le_succ_of_le hn, .inl hR, hy⟩
    · obtain ⟨y, n, hn, hS, hy⟩ := hS.sound hends
      exact ⟨y, n, Nat.le_succ_of_le hn, .inr hS, hy⟩
  complete := by
    rintro x y (hxy | hxy) hy
    · exact (accepts_turn h).mpr (.inl (hR.complete hxy hy))
    · exact (accepts_turn h).mpr (.inr (hS.complete hxy hy))

/-- A turn back to where the steps come from that lead to it. -/
theorem Realizes.loop {greedy : Bool} {again leave : Nat}
    (h : p[i]? = some (.turn greedy again leave)) (hR : p.Realizes again i R) :
    p.Realizes i leave fun x y => ∃ n, Times R n x y where
  sound {k x} hends := by
    induction k using Nat.strongRecOn generalizing x with
    | ind k ih =>
      obtain ⟨m, rfl, hends | hends⟩ := (ends_turn h).mp hends
      · obtain ⟨z, l, hl, hxz, hz⟩ := hR.sound hends
        obtain ⟨y, o, ho, ⟨n, hzy⟩, hy⟩ := ih l (Nat.lt_succ_of_le hl) hz
        exact ⟨y, o, by omega, ⟨n + 1, z, hxz, hzy⟩, hy⟩
      · exact ⟨x, m, Nat.le_succ m, ⟨0, rfl⟩, hends⟩
  complete := by
    rintro x y ⟨n, hxy⟩ hy
    induction n generalizing x with
    | zero =>
      obtain rfl := hxy
      exact (accepts_turn h).mpr (.inr hy)
    | succ n ih =>
      obtain ⟨z, hxz, hzy⟩ := hxy
      exact (accepts_turn h).mpr (.inl (hR.complete hxz (ih hzy)))

/-- Copies that stand behind one another. -/
theorem Realizes.times {size count : Nat}
    (h : ∀ i < count, p.Realizes (start + i * size) (start + (i + 1) * size) R) :
    p.Realizes start (start + count * size) (Times R count) := by
  induction count generalizing start with
  | zero => simpa [Times] using Realizes.refl
  | succ count ih =>
    have hfirst := h 0 (Nat.succ_pos count)
    have hrest : p.Realizes (start + size) (start + size + count * size) (Times R count) := by
      refine ih fun i hi => ?_
      have hi := h (i + 1) (Nat.succ_lt_succ hi)
      rwa [Nat.succ_mul, Nat.succ_mul (i + 1), Nat.add_comm (i * size), Nat.add_comm ((i + 1) * size),
        ← Nat.add_assoc, ← Nat.add_assoc] at hi
    rw [Nat.zero_mul, Nat.add_zero, Nat.zero_add, Nat.one_mul] at hfirst
    rw [Nat.succ_mul, Nat.add_comm (count * size), ← Nat.add_assoc]
    exact hfirst.comp hrest

/-- Copies that stand behind one another, each behind a turn to the end. -/
theorem Realizes.atMost {greedy : Bool} {size count : Nat}
    (hstop : stop = start + count * (size + 1))
    (hturn : ∀ i < count, p[start + i * (size + 1)]? =
      some (.turn greedy (start + i * (size + 1) + 1) stop))
    (h : ∀ i < count, p.Realizes (start + i * (size + 1) + 1) (start + (i + 1) * (size + 1)) R) :
    p.Realizes start stop fun x y => ∃ n, n ≤ count ∧ Times R n x y := by
  induction count generalizing start with
  | zero =>
    obtain rfl : stop = start := by omega
    refine Realizes.refl.of_iff fun x y => ?_
    simp [Times]
  | succ count ih =>
    have hshift : ∀ i, start + (size + 1) + i * (size + 1) = start + (i + 1) * (size + 1) := by
      intro i
      rw [Nat.succ_mul i]
      omega
    have hrest : p.Realizes (start + (size + 1)) stop fun x y => ∃ n, n ≤ count ∧ Times R n x y := by
      refine ih ?_ (fun i hi => ?_) fun i hi => ?_
      · rw [hstop, hshift]
      · rw [hshift]
        exact hturn (i + 1) (Nat.succ_lt_succ hi)
      · rw [hshift, hshift]
        exact h (i + 1) (Nat.succ_lt_succ hi)
    have hfirst := h 0 (Nat.succ_pos count)
    have hhere := hturn 0 (Nat.succ_pos count)
    rw [Nat.zero_mul, Nat.add_zero] at hfirst hhere
    rw [Nat.zero_add, Nat.one_mul] at hfirst
    refine (Realizes.turn hhere (hfirst.comp hrest) .refl).of_iff fun x y => ?_
    constructor
    · rintro (⟨z, hxz, n, hn, hzy⟩ | rfl)
      · exact ⟨n + 1, Nat.succ_le_succ hn, z, hxz, hzy⟩
      · exact ⟨0, Nat.zero_le _, rfl⟩
    · rintro ⟨_ | n, hn, hxy⟩
      · exact .inr hxy
      · obtain ⟨z, hxz, hzy⟩ := hxy
        exact .inl ⟨z, hxz, n, Nat.le_of_succ_le_succ hn, hzy⟩

/-! ### Code -/

/-- Steps stand in a program from a number on. -/
def Holds (p : Program) (start : Nat) (steps : List Step) : Prop :=
  ∀ i s, steps[i]? = some s → p[start + i]? = some s

theorem Holds.head {s : Step} {steps : List Step} (h : p.Holds start (s :: steps)) :
    p[start]? = some s :=
  h 0 s rfl

theorem Holds.tail {s : Step} {steps : List Step} (h : p.Holds start (s :: steps)) :
    p.Holds (start + 1) steps := by
  intro i t hi
  rw [Nat.add_assoc, Nat.add_comm 1]
  exact h (i + 1) t hi

theorem Holds.left {as bs : List Step} (h : p.Holds start (as ++ bs)) : p.Holds start as := by
  intro i s hi
  refine h i s ?_
  rwa [List.getElem?_append_left (List.getElem?_eq_some_iff.mp hi).1]

theorem Holds.right {as bs : List Step} {n : Nat} (h : p.Holds start (as ++ bs))
    (hn : as.length = n) : p.Holds (start + n) bs := by
  intro i s hi
  rw [Nat.add_assoc]
  refine h (n + i) s ?_
  rw [← hn, List.getElem?_append_right (Nat.le_add_right _ _), Nat.add_sub_cancel_left]
  exact hi

theorem Holds.copies {f : Nat → List Step} {n count : Nat}
    (h : p.Holds start ((List.range count).flatMap f)) (hsize : ∀ i, (f i).length = n) :
    ∀ i < count, p.Holds (start + i * n) (f i) := by
  intro i hi
  induction count with
  | zero => exact absurd hi (Nat.not_lt_zero i)
  | succ count ih =>
    rw [List.range_succ, List.flatMap_append] at h
    rcases Nat.lt_or_eq_of_le (Nat.le_of_lt_succ hi) with hi | rfl
    · exact ih h.left hi
    · simpa using h.right (Node.length_copies hsize i)

/-- A program does what a pattern means wherever the steps of the pattern stand in it. -/
def Follows (p : Program) (n : Node) : Prop :=
  ∀ start, p.Holds start (n.code start) → p.Realizes start (start + n.size) n.Matches

theorem realizes_either {a b : Node} (h : p.Holds start ((Node.either a b).code start))
    (iha : p.Follows a) (ihb : p.Follows b) :
    p.Realizes start (start + (Node.either a b).size) (Node.either a b).Matches := by
  rw [Node.code] at h
  have hbehind := h.right (n := a.size + 1) (by rw [List.length_cons, a.length_code])
  have ha := iha _ h.left.tail
  have hb : p.Realizes (start + a.size + 2) (start + a.size + 2 + b.size) b.Matches :=
    ihb _ hbehind.tail
  have hjump := Realizes.jump hbehind.head
  have hsecond : start + a.size + 2 + b.size = start + (Node.either a b).size := by
    rw [Node.size]
    omega
  rw [hsecond] at hjump hb
  rw [Nat.add_right_comm start 1, Nat.add_assoc start] at ha
  have hturn : p[start]? = some (.turn true (start + 1) (start + a.size + 2)) := h.left.head
  refine (Realizes.turn hturn (ha.comp hjump) hb).of_iff fun x y => ?_
  simp [Node.Matches]

theorem realizes_copies {a : Node} {count : Nat}
    (h : p.Holds start ((List.range count).flatMap fun i => a.code (start + i * a.size)))
    (ih : p.Follows a) :
    p.Realizes start (start + count * a.size) (Times a.Matches count) := by
  refine Realizes.times fun i hi => ?_
  have hcopy := ih _ (h.copies (fun i => a.length_code _) i hi)
  rwa [Nat.add_assoc, ← Nat.succ_mul] at hcopy

/-- A pattern that is repeated any number of times. -/
theorem realizes_star {a : Node} {greedy : Bool}
    (h : p.Holds start ((Node.repetition 0 none greedy a).code start))
    (ih : p.Follows a) :
    p.Realizes start (start + (Node.repetition 0 none greedy a).size)
      (Node.repetition 0 none greedy a).Matches := by
  rw [Node.code] at h
  have ha := ih _ h.left.tail
  rw [Nat.add_right_comm start 1, Nat.add_assoc start] at ha
  have hlast := (h.right (n := a.size + 1) (by rw [List.length_cons, a.length_code])).head
  refine (Realizes.turn h.left.head (ha.comp (.loop hlast ha)) .refl).of_iff fun x y => ?_
  simp only [Node.Matches, Nat.zero_le, true_and, reduceCtorEq, false_implies, implies_true]
  constructor
  · rintro (⟨z, hxz, n, hzy⟩ | rfl)
    · exact ⟨n + 1, z, hxz, hzy⟩
    · exact ⟨0, rfl⟩
  · rintro ⟨_ | n, hxy⟩
    · exact .inr hxy
    · obtain ⟨z, hxz, hzy⟩ := hxy
      exact .inl ⟨z, hxz, n, hzy⟩

/-- A pattern that is repeated at least a number of times. -/
theorem realizes_atLeast {a : Node} {least : Nat} {greedy : Bool}
    (h : p.Holds start ((Node.repetition (least + 1) none greedy a).code start))
    (ih : p.Follows a) :
    p.Realizes start (start + (Node.repetition (least + 1) none greedy a).size)
      (Node.repetition (least + 1) none greedy a).Matches := by
  rw [Node.code] at h
  have hlast := ih _ (h.left.copies (fun i => a.length_code _) least (Nat.lt_succ_self least))
  rw [Nat.add_assoc, ← Nat.succ_mul] at hlast
  have hturn := (h.right (Node.length_copies (fun i => a.length_code _) _)).head
  have hstop : start + least * a.size + a.size + 1 =
      start + (Node.repetition (least + 1) none greedy a).size := by
    rw [Node.size, if_neg (Nat.succ_ne_zero least), Nat.succ_mul]
    omega
  rw [hstop] at hturn
  refine ((realizes_copies h.left ih).comp (.loop hturn hlast)).of_iff fun x y => ?_
  simp only [Node.Matches, reduceCtorEq, false_implies, implies_true, true_and]
  constructor
  · rintro ⟨z, hxz, n, hzy⟩
    exact ⟨least + 1 + n, Nat.le_add_right _ _, times_add.mpr ⟨z, hxz, hzy⟩⟩
  · rintro ⟨n, hn, hxy⟩
    obtain ⟨k, rfl⟩ := Nat.exists_eq_add_of_le hn
    obtain ⟨z, hxz, hzy⟩ := times_add.mp hxy
    exact ⟨z, hxz, k, hzy⟩

/-- A pattern that is repeated a number of times within bounds. -/
theorem realizes_between {a : Node} {least most : Nat} {greedy : Bool}
    (h : p.Holds start ((Node.repetition least (some most) greedy a).code start))
    (ih : p.Follows a) :
    p.Realizes start (start + (Node.repetition least (some most) greedy a).size)
      (Node.repetition least (some most) greedy a).Matches := by
  rw [Node.code] at h
  have hfree := (h.right (Node.length_copies (fun i => a.length_code _) least)).copies
    (n := a.size + 1) (fun i => by rw [List.length_cons, a.length_code])
  have hcopies : ∀ i < most - least, p.Realizes (start + least * a.size + i * (a.size + 1) + 1)
      (start + least * a.size + (i + 1) * (a.size + 1)) a.Matches := by
    intro i hi
    have hnext : start + least * a.size + i * (a.size + 1) + 1 + a.size =
        start + least * a.size + (i + 1) * (a.size + 1) := by
      rw [Nat.succ_mul i]
      omega
    rw [← hnext]
    exact ih _ (hfree i hi).tail
  rw [Node.size, ← Nat.add_assoc]
  refine ((realizes_copies h.left ih).comp
    (.atMost rfl (fun i hi => (hfree i hi).head) hcopies)).of_iff fun x y => ?_
  simp only [Node.Matches, Option.some.injEq, forall_eq']
  constructor
  · rintro ⟨z, hxz, n, hn, hzy⟩
    exact ⟨least + n, Nat.le_add_right _ _, by omega, times_add.mpr ⟨z, hxz, hzy⟩⟩
  · rintro ⟨n, hleast, hmost, hxy⟩
    obtain ⟨k, rfl⟩ := Nat.exists_eq_add_of_le hleast
    obtain ⟨z, hxz, hzy⟩ := times_add.mp hxy
    exact ⟨z, hxz, k, by omega, hzy⟩

/-- The steps of a pattern do what the pattern means. -/
theorem follows (p : Program) (n : Node) : p.Follows n := by
  induction n with
  | empty => exact fun start _ => .refl
  | one s => exact fun start h => .read h.head
  | look l => exact fun start h => .look h.head
  | concat a b iha ihb =>
    intro start h
    rw [Node.code] at h
    have hb := ihb _ (h.right (a.length_code start))
    rw [Nat.add_assoc] at hb
    exact (iha _ h.left).comp hb
  | either a b iha ihb => exact fun start h => realizes_either h iha ihb
  | group captures a ih => exact fun start h => ih start h
  | repetition least most greedy a ih =>
    intro start h
    cases most with
    | some most => exact realizes_between h ih
    | none =>
      cases least with
      | zero => exact realizes_star h ih
      | succ least => exact realizes_atLeast h ih

/-- A thread at the first step of a program for a pattern can be brought to the end just if the pattern
matches from its place to some other. -/
theorem accepts_ofNode {n : Node} : (ofNode n).Accepts x 0 ↔ ∃ y, n.Matches x y := by
  have hcode : (ofNode n).Holds 0 (n.code 0) := by
    intro i s hi
    rw [Nat.zero_add, ofNode, List.getElem?_toArray]
    exact hi
  have hstop : (ofNode n)[0 + n.size]? = none := by
    refine Array.getElem?_eq_none (Nat.le_of_eq ?_)
    rw [size_ofNode, Nat.zero_add]
  have hnode := follows (ofNode n) n 0 hcode
  constructor
  · rintro ⟨k, hk⟩
    obtain ⟨y, -, -, hxy, -⟩ := hnode.sound hk
    exact ⟨y, hxy⟩
  · rintro ⟨y, hxy⟩
    exact hnode.complete hxy ⟨0, .done hstop⟩

end Program

end RuleMatching.Pattern
