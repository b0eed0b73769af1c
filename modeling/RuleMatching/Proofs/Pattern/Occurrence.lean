import RuleMatching.Pattern
import RuleMatching.Proofs.Pattern.Meaning

/-!
Searching for a pattern finds a match just if there is one.  Taking threads to the next place adds none
that leads to an end, `advance_sound`, and misses none, `advance_complete`, so a text has an occurrence of
a pattern just if the pattern matches from some place of the text to another: `occursIn_iff`.
-/

set_option autoImplicit false
set_option relaxedAutoImplicit false

namespace RuleMatching.Pattern

/-- A place is another or stands before it in the same text. -/
inductive Place.Before : Place → Place → Prop
  | refl (x : Place) : Before x x
  | step {b : Option Char} {c : Char} {cs : List Char} {y : Place} (h : Before ⟨some c, cs⟩ y) :
      Before ⟨b, c :: cs⟩ y

theorem Place.before_nil_iff {b : Option Char} {y : Place} : Before ⟨b, []⟩ y ↔ y = ⟨b, []⟩ := by
  constructor
  · rintro ⟨⟩
    rfl
  · rintro rfl
    exact .refl _

theorem Place.before_cons_iff {b : Option Char} {c : Char} {cs : List Char} {y : Place} :
    Before ⟨b, c :: cs⟩ y ↔ y = ⟨b, c :: cs⟩ ∨ Before ⟨some c, cs⟩ y := by
  constructor
  · rintro (_ | h)
    · exact .inl rfl
    · exact .inr h
  · rintro (rfl | h)
    · exact .refl _
    · exact .step h

namespace Program

variable {p : Program} {x : Place} {fuel : Nat} {seen : Array Bool} {next next' ts us : List Thread}
  {t : Thread} {found : Option Nat}

/-- One of the threads at a place, or one of those behind the next character, leads to an end. -/
def MayEnd (p : Program) (x : Place) (next ts : List Thread) : Prop :=
  (∃ t ∈ ts, p.Accepts x t.step) ∨
    ∃ c cs, x.rest = c :: cs ∧ ∃ u ∈ next, p.Accepts ⟨some c, cs⟩ u.step

/-! ### No thread is added -/

theorem MayEnd.of_replaced (us : List Thread) (h : p.MayEnd x next (us ++ ts))
    (hus : ∀ u ∈ us, p.Accepts x u.step → p.Accepts x t.step) : p.MayEnd x next (t :: ts) := by
  obtain ⟨u, hu, haccepts⟩ | hnext := h
  · rcases List.mem_append.mp hu with hu | hu
    · exact .inl ⟨t, List.mem_cons_self, hus u hu haccepts⟩
    · exact .inl ⟨u, List.mem_cons_of_mem t hu, haccepts⟩
  · exact .inr hnext

theorem MayEnd.of_reverse (h : p.MayEnd x next.reverse []) : p.MayEnd x next ts := by
  obtain ⟨u, hu, -⟩ | ⟨c, cs, hrest, u, hu, haccepts⟩ := h
  · exact absurd hu List.not_mem_nil
  · exact .inr ⟨c, cs, hrest, u, List.mem_reverse.mp hu, haccepts⟩

theorem accepts_of_look {l : Look} (h : p[t.step]? = some (.look l))
    (hl : l.holds x.before x.rest.head? = true) (hbehind : p.Accepts x (t.step + 1)) :
    p.Accepts x t.step := by
  obtain ⟨k, hk⟩ := hbehind
  exact ⟨_, .look h hl hk⟩

theorem accepts_of_jump {a : Nat} (h : p[t.step]? = some (.jump a)) (ha : p.Accepts x a) :
    p.Accepts x t.step := by
  obtain ⟨k, hk⟩ := ha
  exact ⟨_, .jump h hk⟩

theorem accepts_fork {a b : Nat} (h : p[t.step]? = some (.fork a b)) :
    p.Accepts x t.step ↔ p.Accepts x a ∨ p.Accepts x b :=
  accepts_turn (show p[t.step]? = some (.turn true a b) from h)

theorem MayEnd.of_read {s : CharSet} (h : p[t.step]? = some (.read s))
    (hreads : x.rest.head?.any (fun c => s.holds c.toNat) = true)
    (hend : p.MayEnd x (⟨t.step + 1, t.start⟩ :: next) ts) : p.MayEnd x next (t :: ts) := by
  obtain ⟨u, hu, haccepts⟩ | ⟨c, cs, hrest, u, hu, k, hk⟩ := hend
  · exact .inl ⟨u, List.mem_cons_of_mem t hu, haccepts⟩
  · rcases List.mem_cons.mp hu with rfl | hu
    · obtain ⟨b, rest⟩ := x
      obtain rfl := hrest
      exact .inl ⟨t, List.mem_cons_self, _, .read h hreads hk⟩
    · exact .inr ⟨c, cs, hrest, u, hu, k, hk⟩

/-- If there is a match or one of the threads taken behind the next character leads to an end, then so
does one of those that were taken there. -/
theorem advance_sound (h : p.advance x.before x.rest.head? fuel seen next ts = (next', found))
    (hend : found.isSome = true ∨ p.MayEnd x next' []) : p.MayEnd x next ts := by
  induction fuel generalizing seen next ts with
  | zero =>
    obtain ⟨rfl, rfl⟩ := Prod.mk.inj h
    exact .of_reverse (hend.resolve_left Bool.false_ne_true)
  | succ fuel ih =>
    cases ts with
    | nil =>
      obtain ⟨rfl, rfl⟩ := Prod.mk.inj h
      exact .of_reverse (hend.resolve_left Bool.false_ne_true)
    | cons t ts =>
      rw [advance] at h
      split at h
      · rename_i hdone
        exact .inl ⟨t, List.mem_cons_self, 0, .done hdone⟩
      · rename_i step hstep
        split at h
        · exact MayEnd.of_replaced [] (ih h) (by simp)
        · cases step with
          | read s =>
            have hrest := ih h
            split at hrest
            · rename_i hreads
              exact .of_read hstep hreads hrest
            · exact MayEnd.of_replaced [] hrest (by simp)
          | look l =>
            have hrest := ih h
            split at hrest
            · rename_i hl
              exact MayEnd.of_replaced [_] hrest (by simpa using accepts_of_look hstep hl)
            · exact MayEnd.of_replaced [] hrest (by simp)
          | jump a => exact MayEnd.of_replaced [_] (ih h) (by simpa using accepts_of_jump hstep)
          | fork a b =>
            refine MayEnd.of_replaced [_, _] (ih h) fun u hu haccepts => ?_
            rcases List.mem_cons.mp hu with rfl | hu
            · exact (accepts_fork hstep).mpr (.inl haccepts)
            · obtain rfl := List.mem_singleton.mp hu
              exact (accepts_fork hstep).mpr (.inr haccepts)

/-! ### No thread is missed -/

/-- The threads behind the next character stay while further ones are taken there. -/
theorem mem_of_advance {u : Thread}
    (h : p.advance x.before x.rest.head? fuel seen next ts = (next', found)) (hu : u ∈ next) :
    u ∈ next' := by
  induction fuel generalizing seen next ts with
  | zero =>
    obtain ⟨rfl, -⟩ := Prod.mk.inj h
    exact List.mem_reverse.mpr hu
  | succ fuel ih =>
    cases ts with
    | nil =>
      obtain ⟨rfl, -⟩ := Prod.mk.inj h
      exact List.mem_reverse.mpr hu
    | cons t ts =>
      rw [advance] at h
      split at h
      · obtain ⟨rfl, -⟩ := Prod.mk.inj h
        exact List.mem_reverse.mpr hu
      · rename_i step hstep
        split at h
        · exact ih h hu
        · cases step with
          | read s =>
            refine ih h ?_
            split
            · exact List.mem_cons_of_mem _ hu
            · exact hu
          | look l => exact ih h hu
          | jump a => exact ih h hu
          | fork a b => exact ih h hu

/-- Where a step leads without reading is in a set of steps, and behind it, if it reads the next
character, there is a thread. -/
def ClosedAt (p : Program) (x : Place) (next : List Thread) (reached : Nat → Prop) (i : Nat) : Prop :=
  match p[i]? with
  | none => False
  | some (.read s) =>
      x.rest.head?.any (fun c => s.holds c.toNat) = true → ∃ u ∈ next, u.step = i + 1
  | some (.look l) => l.holds x.before x.rest.head? = true → reached (i + 1)
  | some (.jump a) => reached a
  | some (.fork a b) => reached a ∧ reached b

/-- From a set of steps that is closed there is no end but over the next character. -/
theorem exists_of_closed {reached : Nat → Prop} {k i : Nat}
    (hclosed : ∀ i, reached i → p.ClosedAt x next reached i) (hi : reached i) (hends : p.Ends k x i) :
    ∃ c cs, x.rest = c :: cs ∧ ∃ u ∈ next, p.Accepts ⟨some c, cs⟩ u.step := by
  induction hends with
  | done h => simpa [ClosedAt, h] using hclosed _ hi
  | read h hc hbehind =>
    obtain ⟨u, hu, hstep⟩ : ∃ u ∈ next, u.step = _ := by
      simpa [ClosedAt, h, hc] using hclosed _ hi
    exact ⟨_, _, rfl, u, hu, _, hstep ▸ hbehind⟩
  | look h hl _ ih => exact ih hclosed (by simpa [ClosedAt, h, hl] using hclosed _ hi)
  | jump h _ ih => exact ih hclosed (by simpa [ClosedAt, h] using hclosed _ hi)
  | first h _ ih =>
    have hboth := hclosed _ hi
    simp only [ClosedAt, h] at hboth
    exact ih hclosed hboth.1
  | second h _ ih =>
    have hboth := hclosed _ hi
    simp only [ClosedAt, h] at hboth
    exact ih hclosed hboth.2

/-- What bounds the number of steps to come: each step that has not been seen may put two threads in the
place of one. -/
def stepsLeft (seen : Array Bool) (ts : List Thread) : Nat := ts.length + 2 * seen.count false

theorem getD_mark {i j : Nat} (hi : i < seen.size) :
    (seen.setIfInBounds i true).getD j false = true ↔ i = j ∨ seen.getD j false = true := by
  rw [Array.getD_eq_getD_getElem?, Array.getD_eq_getD_getElem?, Array.getElem?_setIfInBounds]
  split
  · simp_all
  · simp_all

theorem count_mark {i : Nat} (hi : i < seen.size) (hunseen : seen.getD i false = false) :
    (seen.setIfInBounds i true).count false + 1 = seen.count false := by
  rw [Array.getD_eq_getD_getElem?, Array.getElem?_eq_getElem hi, Option.getD_some] at hunseen
  have hmem : 0 < seen.count false := Array.count_pos_iff.mpr (hunseen ▸ Array.getElem_mem hi)
  rw [Array.setIfInBounds, dif_pos hi, Array.count_set, if_pos (by rw [hunseen]; rfl), if_neg (by decide)]
  omega

/-- The steps seen at last are a set that holds the threads and that is closed but at the steps seen
before. -/
def Reaches (p : Program) (x : Place) (seen : Array Bool) (next' ts : List Thread) : Prop :=
  ∃ reached : Nat → Prop, (∀ i, seen.getD i false = true → reached i) ∧
    (∀ t ∈ ts, reached t.step) ∧
    ∀ i, reached i → seen.getD i false = false → p.ClosedAt x next' reached i

/-- A step that has not been seen, and the threads put in the place of the one at it. -/
theorem Reaches.of_step (us : List Thread) (hi : t.step < seen.size)
    (h : p.Reaches x (seen.setIfInBounds t.step true) next' (us ++ ts))
    (hclosed : ∀ reached : Nat → Prop, (∀ u ∈ us, reached u.step) →
      p.ClosedAt x next' reached t.step) : p.Reaches x seen next' (t :: ts) := by
  obtain ⟨reached, hseen, hthreads, hrest⟩ := h
  obtain ⟨hus, hts⟩ := List.forall_mem_append.mp hthreads
  refine ⟨reached, fun i h => hseen i ((getD_mark hi).mpr (.inr h)), ?_, fun i hreached hunseen => ?_⟩
  · exact List.forall_mem_cons.mpr ⟨hseen _ ((getD_mark hi).mpr (.inl rfl)), hts⟩
  · by_cases hhere : t.step = i
    · exact hhere ▸ hclosed reached hus
    · refine hrest i hreached (Bool.eq_false_iff.mpr fun h => ?_)
      rcases (getD_mark hi).mp h with h | h
      · exact hhere h
      · exact Bool.false_ne_true (hunseen.symm.trans h)

theorem exists_closed (h : p.advance x.before x.rest.head? fuel seen next ts = (next', none))
    (hfuel : stepsLeft seen ts < fuel) (hsize : seen.size = p.size) : p.Reaches x seen next' ts := by
  induction fuel generalizing seen next ts with
  | zero => exact absurd hfuel (Nat.not_lt_zero _)
  | succ fuel ih =>
    cases ts with
    | nil =>
      refine ⟨fun i => seen.getD i false = true, fun i hi => hi, by simp, fun i hi hunseen => ?_⟩
      exact absurd (hunseen.symm.trans hi) Bool.false_ne_true
    | cons t ts =>
      rw [advance] at h
      split at h
      · simp at h
      · rename_i step hstep
        have hi : t.step < seen.size := hsize ▸ (Array.getElem?_eq_some_iff.mp hstep).1
        by_cases hseen : seen.getD t.step false = true
        · rw [if_pos hseen] at h
          have hfuel : stepsLeft seen ts < fuel := by
            unfold stepsLeft at *
            rw [List.length_cons] at hfuel
            omega
          obtain ⟨reached, hall, hthreads, hrest⟩ := ih h hfuel hsize
          exact ⟨reached, hall, List.forall_mem_cons.mpr ⟨hall _ hseen, hthreads⟩, hrest⟩
        · rw [if_neg hseen] at h
          have hcount := count_mark hi (Bool.eq_false_iff.mpr hseen)
          have hfuel : ∀ us : List Thread, us.length ≤ 2 →
              stepsLeft (seen.setIfInBounds t.step true) (us ++ ts) < fuel := by
            intro us hus
            unfold stepsLeft at *
            rw [List.length_cons] at hfuel
            rw [List.length_append]
            omega
          have hsize : (seen.setIfInBounds t.step true).size = p.size := by
            rw [Array.size_setIfInBounds, hsize]
          cases step with
          | read s =>
            refine .of_step [] hi (ih h (hfuel [] (by decide)) hsize) fun reached _ => ?_
            simp only [ClosedAt, hstep]
            intro hreads
            simp only [hreads, if_true] at h
            exact ⟨_, mem_of_advance h List.mem_cons_self, rfl⟩
          | look l =>
            by_cases hl : l.holds x.before x.rest.head? = true
            · simp only [hl, if_true] at h
              refine .of_step [_] hi (ih h (hfuel [_] (by simp)) hsize) fun reached hus => ?_
              simpa [ClosedAt, hstep, hl] using hus
            · simp only [hl] at h
              refine .of_step [] hi (ih h (hfuel [] (by decide)) hsize) fun reached _ => ?_
              simp [ClosedAt, hstep, hl]
          | jump a =>
            refine .of_step [_] hi (ih h (hfuel [_] (by simp)) hsize) fun reached hus => ?_
            simpa [ClosedAt, hstep] using hus
          | fork a b =>
            refine .of_step [_, _] hi (ih h (hfuel [_, _] (by simp)) hsize) fun reached hus => ?_
            simpa [ClosedAt, hstep] using hus

/-- If there is no match, then the threads that are taken behind the next character include one that leads
to an end, if there was one among those that were taken there. -/
theorem advance_complete (h : p.advance x.before x.rest.head? fuel seen [] ts = (next', none))
    (hfuel : stepsLeft seen ts < fuel) (hsize : seen = Array.replicate p.size false)
    (hend : ∃ t ∈ ts, p.Accepts x t.step) :
    ∃ c cs, x.rest = c :: cs ∧ ∃ u ∈ next', p.Accepts ⟨some c, cs⟩ u.step := by
  obtain ⟨reached, -, hthreads, hclosed⟩ := exists_closed h hfuel (by rw [hsize, Array.size_replicate])
  obtain ⟨t, ht, k, hk⟩ := hend
  refine exists_of_closed (fun i hi => hclosed i hi ?_) (hthreads t ht) hk
  rw [hsize, Array.getD_eq_getD_getElem?, Array.getElem?_replicate]
  split <;> rfl

/-! ### Runs -/

/-- The threads that are taken behind the next character, and where a match starts. -/
def taken (p : Program) (x : Place) (ts : List Thread) : List Thread × Option Nat :=
  p.advance x.before x.rest.head? (p.advanceBound ts) (Array.replicate p.size false) [] ts

/-- Threads lead to an end just if there is a match or one that is taken behind the next character does. -/
theorem exists_accepts_iff : (∃ t ∈ ts, p.Accepts x t.step) ↔ (p.taken x ts).2.isSome = true ∨
    ∃ c cs, x.rest = c :: cs ∧ ∃ u ∈ (p.taken x ts).1, p.Accepts ⟨some c, cs⟩ u.step := by
  constructor
  · intro hend
    cases hfound : (p.taken x ts).2 with
    | some start => exact .inl rfl
    | none =>
      refine .inr (advance_complete (Prod.ext rfl hfound) ?_ rfl hend)
      rw [stepsLeft, advanceBound, Array.count_replicate_self]
      omega
  · intro hend
    have hthreads : p.MayEnd x [] ts := by
      have hadvance : p.advance x.before x.rest.head? (p.advanceBound ts)
          (Array.replicate p.size false) [] ts = ((p.taken x ts).1, (p.taken x ts).2) := rfl
      exact advance_sound hadvance (hend.imp_right .inr)
    refine hthreads.resolve_right ?_
    rintro ⟨-, -, -, u, hu, -⟩
    exact List.not_mem_nil hu

theorem isSome_run_of_isSome {best : Option Span} {before : Option Char} {start : Nat} {cs : List Char}
    (h : best.isSome = true) : (p.run ts best before start cs).isSome = true := by
  have hbest : ∀ found : Option Span, (found.or best).isSome = true := by simp [h]
  induction cs generalizing ts best before start with
  | nil => exact hbest _
  | cons c cs ih =>
    rw [run]
    simp only [apply_ite Option.isSome, hbest, ite_eq_left_iff]
    exact fun _ => ih (hbest _) (by simp [hbest])

theorem run_cons {before : Option Char} {start : Nat} {c : Char} {cs : List Char} :
    p.run ts none before start (c :: cs) =
      let (next, found) := p.taken ⟨before, c :: cs⟩ (ts ++ [⟨0, start⟩])
      let best := found.map fun first => (⟨first, start⟩ : Span)
      if next.isEmpty && best.isSome then best
      else p.run next best (some c) (start + c.utf8Size) cs := by
  rw [run]
  simp [taken]

/-- A run that has no match yet finds one just if one of its threads leads to an end, or one that starts at
a place to come. -/
theorem isSome_run_iff {before : Option Char} {start : Nat} {cs : List Char} :
    (p.run ts none before start cs).isSome = true ↔ (∃ t ∈ ts, p.Accepts ⟨before, cs⟩ t.step) ∨
      ∃ y, Place.Before ⟨before, cs⟩ y ∧ p.Accepts y 0 := by
  have hstart : ∀ {x : Place} {ts : List Thread} (start : Nat),
      (∃ t ∈ ts, p.Accepts x t.step) ∨ p.Accepts x 0 ↔
        ∃ t ∈ ts ++ [⟨0, start⟩], p.Accepts x t.step := by
    simp [or_and_right, exists_or]
  induction cs generalizing ts before start with
  | nil =>
    have hrun : (p.run ts none before start []).isSome =
        (p.taken ⟨before, []⟩ (ts ++ [⟨0, start⟩])).2.isSome := by
      simp [run, taken]
    simp only [hrun, Place.before_nil_iff, exists_eq_left]
    rw [hstart start, exists_accepts_iff]
    simp
  | cons c cs ih =>
    simp only [Place.before_cons_iff, or_and_right, exists_or, exists_eq_left, ← or_assoc]
    rw [hstart start, exists_accepts_iff]
    rw [run_cons]
    generalize p.taken ⟨before, c :: cs⟩ (ts ++ [⟨0, start⟩]) = result
    obtain ⟨next, found⟩ := result
    cases found with
    | some first => simp [apply_ite Option.isSome, isSome_run_of_isSome]
    | none => simp [ih, and_assoc]

/-- A search from the start of a text finds a match just if a thread at the first step leads to an end from
some place of the text. -/
theorem occurs_iff {text : List Char} :
    p.occurs text = true ↔ ∃ y, Place.Before ⟨none, text⟩ y ∧ p.Accepts y 0 := by
  rw [occurs, search?, isSome_run_iff]
  simp

theorem spans_ne_nil_iff {text : List Char} : p.spans text ≠ [] ↔ p.occurs text = true := by
  rw [spans, occurs]
  cases text with
  | nil => cases h : p.search? none 0 [] <;> simp [spansFrom, h]
  | cons c cs => cases h : p.search? none 0 (c :: cs) <;> simp [spansFrom, h]

end Program

/-- The pattern that a text stands for occurs in a text just if it matches from some place of the text to
another. -/
theorem occursIn_iff {limit : Option Nat} {source : String} {pattern : Pattern}
    (h : ofText? limit source = some pattern) {text : String} : pattern.occursIn text = true ↔
      ∃ n, readNode? source.toList = some n ∧
        ∃ x y, Place.Before ⟨none, text.toList⟩ x ∧ n.Matches x y := by
  unfold ofText? at h
  split at h
  · rename_i n hn
    obtain ⟨-, h⟩ := Option.ite_none_right_eq_some.mp h
    obtain rfl := Option.some.inj h
    rw [occursIn, Program.occurs_iff]
    simp [hn, Program.accepts_ofNode]
  · cases h

theorem matchesIn_ne_nil_iff {pattern : Pattern} {text : String} :
    pattern.matchesIn text ≠ [] ↔ pattern.occursIn text = true := by
  rw [matchesIn, ne_eq, List.map_eq_nil_iff]
  exact Program.spans_ne_nil_iff

end RuleMatching.Pattern
