import Mathlib.Data.List.TakeWhile
import RuleMatching.Proofs.Pattern.Ahead

/-!
Sets of characters in brackets are read without looking further than a bar: `stopsAtBar_readClass`.
-/

set_option autoImplicit false
set_option relaxedAutoImplicit false

namespace RuleMatching.Pattern

variable {f : Flags} {c : Char} {cs rest : List Char}

theorem decide_ne_of_not_mem (h : c ∉ cs) : ∀ d ∈ cs, decide (d ≠ c) = true := by
  intro d hd
  simpa using fun heq : d = c => h (heq ▸ hd)

theorem dropWhile_append_bar {p : Char → Bool} {t : List Char} (hp : p '|' = false) :
    (cs ++ '|' :: t).dropWhile p = cs.dropWhile p ++ '|' :: t := by
  induction cs with
  | nil => simp [hp]
  | cons c cs ih =>
    rw [List.cons_append, List.dropWhile_cons, List.dropWhile_cons, ih]
    split <;> rfl

theorem stopsAtBar_readClassUnit : StopsAtBar (readClassUnit f) cs := by
  cases cs with
  | nil => exact stopsAtBar_nil rfl
  | cons c r =>
    by_cases hc : c = '\\'
    · subst hc
      exact .cons stopsAtBar_readEscape fun _ => rfl
    · refine .cons ?_ fun _ => rfl
      simp only [readClassUnit]
      exact stopsAtBar_some

/-- A character that counts and that is no bar is seen first with a bar behind the text just if it is seen
first without it. -/
theorem peek_append_iff {t : List Char} (hblank : Text.isBlank c = false) (hmark : c ≠ '#')
    (hbar : c ≠ '|') : f.peek (cs ++ '|' :: t) = some c ↔ f.peek cs = some c := by
  have hhead : ∀ d r, cs.dropWhile Text.isBlank = d :: r → cs.head? = some c → d = c := by
    intro d r hdrop hc
    obtain ⟨r', rfl⟩ := List.head?_eq_some_iff.mp hc
    simp only [List.dropWhile_cons, hblank] at hdrop
    exact (List.cons.inj hdrop).1.symm
  unfold Flags.peek
  split
  · rw [dropWhile_append_bar (by decide)]
    cases hdrop : cs.dropWhile Text.isBlank with
    | nil =>
      have hnone : cs.head? ≠ some c := by
        intro hc
        obtain ⟨r', rfl⟩ := List.head?_eq_some_iff.mp hc
        simp [hblank] at hdrop
      simpa [hbar.symm] using hnone
    | cons d r =>
      have hd := hhead d r hdrop
      by_cases hmarked : d = '#'
      · subst hmarked
        have hnone : cs.head? ≠ some c := fun hc => hmark (hd hc).symm
        simp only [List.cons_append]
        rw [dropWhile_append_bar (by decide)]
        cases r.dropWhile Text.isBlank with
        | nil => simpa [hbar.symm] using hnone
        | cons e es => simp
      · simp
  · cases cs with
    | nil => simpa using hbar.symm
    | cons d r => simp

/-- Reads the end of a range. -/
def rangeEnd (f : Flags) (first : Unit) (cs : List Char) : Option (CharSet × List Char) := do
  let (last, rest) ← readClassUnit f (f.skip cs)
  match first, last with
  | .literal a _, .literal b _ => do
      let a ← classChar? f a
      let b ← classChar? f b
      if a ≤ b then some (.range a.toNat b.toNat, rest) else none
  | _, _ => none

/-- What a unit that is no range leads to. -/
def unitAlone (f : Flags) (first : Unit) (cs : List Char) : Option (CharSet × List Char) := do
  let s ← unitSet? f first
  some (s, cs)

/-- Reads what stands behind the first unit of a range, or of a unit alone. -/
def rangeBehind (f : Flags) (first : Unit) : List Char → Option (CharSet × List Char)
  | [] => none
  | c :: r =>
      if c = '-' ∧ ¬(f.peek r = some ']' ∨ f.peek r = some '-') then rangeEnd f first r
      else unitAlone f first (c :: r)

theorem readClassRange_eq : readClassRange f cs =
    (readClassUnit f cs).bind fun y => rangeBehind f y.1 (f.skip y.2) := by
  rw [readClassRange]
  congr 1
  funext ⟨first, rest⟩
  simp only
  cases f.skip rest with
  | nil => rfl
  | cons c r =>
    by_cases hc : c = '-'
    · subst hc
      simp only [rangeBehind, true_and, ite_not]
      rfl
    · simp [rangeBehind, hc, unitAlone]

theorem stopsAtBar_unitAlone {first : Unit} : StopsAtBar (unitAlone f first) cs :=
  .value fun _ => stopsAtBar_some

theorem stopsAtBar_rangeEnd {first : Unit} : StopsAtBar (rangeEnd f first) cs := by
  refine .bind (.afterSkip stopsAtBar_readClassUnit) fun last rest => ?_
  cases first with
  | literal a _ =>
    cases last with
    | literal b _ => exact .value fun a => .value fun b => .ite stopsAtBar_some stopsAtBar_none
    | _ => exact stopsAtBar_none
  | _ => exact stopsAtBar_none

theorem stopsAtBar_rangeBehind {first : Unit} : StopsAtBar (rangeBehind f first) cs := by
  cases cs with
  | nil => exact stopsAtBar_nil rfl
  | cons c r =>
    have hpeek : ∀ t, f.peek (r ++ '|' :: t) = some ']' ∨ f.peek (r ++ '|' :: t) = some '-' ↔
        f.peek r = some ']' ∨ f.peek r = some '-' := fun t =>
      or_congr (peek_append_iff (by decide) (by decide) (by decide))
        (peek_append_iff (by decide) (by decide) (by decide))
    have hbar : ∀ t, (c = '-' ∧
        ¬(f.peek (r ++ '|' :: t) = some ']' ∨ f.peek (r ++ '|' :: t) = some '-')) ↔
        c = '-' ∧ ¬(f.peek r = some ']' ∨ f.peek r = some '-') := fun t =>
      and_congr_right fun _ => not_congr (hpeek t)
    by_cases hrange : c = '-' ∧ ¬(f.peek r = some ']' ∨ f.peek r = some '-')
    · have hend : StopsAtBar (onCons fun _ => rangeEnd f first) (c :: r) :=
        .cons stopsAtBar_rangeEnd fun _ => rfl
      refine hend.congr ?_ fun t => ?_
      · rw [rangeBehind, if_pos hrange]
        rfl
      · rw [List.cons_append, rangeBehind, if_pos ((hbar t).mpr hrange)]
        rfl
    · have halone : StopsAtBar (unitAlone f first) (c :: r) := stopsAtBar_unitAlone
      refine halone.congr ?_ fun t => ?_
      · rw [rangeBehind, if_neg hrange]
      · rw [List.cons_append, rangeBehind, if_neg fun h => hrange ((hbar t).mp h)]

theorem stopsAtBar_readClassRange : StopsAtBar (readClassRange f) cs := by
  have heq : readClassRange f = fun cs => (readClassUnit f cs).bind fun y =>
      rangeBehind f y.1 (f.skip y.2) := funext fun _ => readClassRange_eq
  rw [heq]
  exact .bind stopsAtBar_readClassUnit fun _ _ => .afterSkip stopsAtBar_rangeBehind

/-! ### Classes of ASCII characters -/

/-- No class of ASCII characters has a bar in its name. -/
theorem asciiClass?_of_bar {name : List Char} (h : '|' ∈ name) :
    CharSet.asciiClass? (String.ofList name) = none := by
  have hnames : ∀ c ∈ CharSet.asciiClasses, '|' ∉ c.1.toList := by decide
  rw [CharSet.asciiClass?, Option.map_eq_none_iff, List.find?_eq_none]
  intro c hc heq
  refine hnames c hc ?_
  rw [beq_iff_eq.mp heq, String.toList_ofList]
  exact h

/-- What the name of a class of ASCII characters leads to, with what stands behind the name. -/
def namedClass (f : Flags) (negated : Bool) (name : List Char) :
    List Char → Option (Option CharSet × List Char)
  | ':' :: ']' :: rest =>
      match CharSet.asciiClass? (String.ofList name) with
      | some s =>
          if negated && !f.unicode then some (none, rest)
          else some (some (complementIf negated (foldSet f s)), rest)
      | none => none
  | _ => none

/-- Reads the name of a class of ASCII characters, and what ends it. -/
def readClassName (f : Flags) (negated : Bool) (cs : List Char) :
    Option (Option CharSet × List Char) :=
  namedClass f negated (cs.takeWhile (· ≠ ':')) (cs.dropWhile (· ≠ ':'))

theorem readAsciiClass_cons {r : List Char} : readAsciiClass f (':' :: r) =
    readClassName f (r.head? == some '^') (if r.head? == some '^' then r.drop 1 else r) :=
  rfl

theorem readAsciiClass_of_ne (h : ∀ r, cs ≠ ':' :: r) : readAsciiClass f cs = none := by
  unfold readAsciiClass
  split
  · rename_i r
    exact absurd rfl (h r)
  · rfl

theorem namedClass_append {negated : Bool} {name t : List Char} :
    namedClass f negated name (cs ++ '|' :: t) =
      (namedClass f negated name cs).map fun y => (y.1, y.2 ++ '|' :: t) := by
  match cs with
  | [] => rfl
  | [c] => by_cases hc : c = ':' <;> simp [namedClass, hc]
  | c :: d :: rest =>
    by_cases hends : c = ':' ∧ d = ']'
    · obtain ⟨rfl, rfl⟩ := hends
      simp only [List.cons_append, namedClass]
      cases CharSet.asciiClass? (String.ofList name) with
      | none => rfl
      | some s => cases negated && !f.unicode <;> rfl
    · rw [not_and] at hends
      by_cases hc : c = ':'
      · have hd := hends hc
        simp [namedClass, hd]
      · simp [namedClass, hc]

theorem namedClass_of_bar {negated : Bool} {name : List Char} (h : '|' ∈ name) :
    namedClass f negated name cs = none := by
  unfold namedClass
  split
  · rw [asciiClass?_of_bar h]
  · rfl

/-- Whether the name of a class is read does not depend on what stands behind a bar. -/
theorem readClassName_append {negated : Bool} {t : List Char} :
    readClassName f negated (cs ++ '|' :: t) =
      (readClassName f negated cs).map fun y => (y.1, y.2 ++ '|' :: t) := by
  unfold readClassName
  by_cases hcolon : ':' ∈ cs
  · rw [← namedClass_append]
    obtain ⟨name, rest, rfl, hname⟩ := List.eq_append_cons_of_mem hcolon
    have hne := decide_ne_of_not_mem hname
    rw [List.append_assoc, List.cons_append, List.takeWhile_append_of_pos hne,
      List.takeWhile_append_of_pos hne, List.dropWhile_append_of_pos hne,
      List.dropWhile_append_of_pos hne]
    simp
  · have hne := decide_ne_of_not_mem hcolon
    rw [namedClass_of_bar, List.dropWhile_eq_nil_iff.mpr hne]
    · rfl
    · rw [List.takeWhile_append_of_pos hne]
      simp

/-- Whether a class of ASCII characters is read does not depend on what stands behind a bar. -/
theorem readAsciiClass_append {t : List Char} : readAsciiClass f (cs ++ '|' :: t) =
    (readAsciiClass f cs).map fun y => (y.1, y.2 ++ '|' :: t) := by
  by_cases hcolon : ∃ r, cs = ':' :: r
  · obtain ⟨r, rfl⟩ := hcolon
    rw [List.cons_append, readAsciiClass_cons, readAsciiClass_cons, ← readClassName_append]
    cases r with
    | nil => rfl
    | cons d r =>
      simp only [List.cons_append, List.head?_cons, List.drop_one, List.tail_cons]
      split <;> rfl
  · rw [not_exists] at hcolon
    rw [readAsciiClass_of_ne hcolon, readAsciiClass_of_ne (ne_cons_append hcolon (by decide))]
    rfl

theorem readAsciiClass_suffix {y : Option CharSet} (h : readAsciiClass f cs = some (y, rest)) :
    rest <:+ cs := by
  have hname : ∀ {negated name ds}, namedClass f negated name ds = some (y, rest) → rest <:+ ds := by
    intro negated name ds h
    unfold namedClass at h
    split at h
    · rename_i rest'
      split at h
      · have hrest : rest = rest' := by
          split at h <;> exact (Prod.mk.inj (Option.some.inj h)).2.symm
        rw [hrest]
        exact (List.suffix_cons _ _).trans (List.suffix_cons _ _)
      · cases h
    · cases h
  by_cases hcolon : ∃ r, cs = ':' :: r
  · obtain ⟨r, rfl⟩ := hcolon
    rw [readAsciiClass_cons] at h
    refine ((hname h).trans (List.dropWhile_suffix _)).trans (.trans ?_ (List.suffix_cons _ r))
    split
    · exact List.drop_suffix 1 r
    · exact List.suffix_rfl
  · rw [readAsciiClass_of_ne (not_exists.mp hcolon)] at h
    cases h

/-- A minus sign as a member of a set. -/
def minus (_ : Char) : Nested := ⟨.single '-', 0⟩

theorem readMinuses_eq {fuel : Nat} (seen : List Char) (items : List Nested) :
    readMinuses f fuel (seen.map minus ++ items) cs =
      ((readWhile f (· == '-') fuel seen cs).1.reverse.map minus ++ items,
        (readWhile f (· == '-') fuel seen cs).2) := by
  induction fuel generalizing seen cs with
  | zero => simp [readMinuses, readWhile]
  | succ fuel ih =>
    cases cs with
    | nil => simp [readMinuses, readWhile]
    | cons c r =>
      by_cases hc : c = '-'
      · subst hc
        exact ih ('-' :: seen)
      · simp [readMinuses, readWhile, hc]

/-- What the minus signs at the start of a set lead to, with what stands behind them. -/
def openMembers (f : Flags) (negated : Bool) (items : List Nested) (cs : List Char) :
    Option (ClassFrame × List Char) :=
  match items, cs with
  | _, [] => none
  | [], ']' :: r =>
      match f.skip r with
      | [] => none
      | r => some (⟨negated, [⟨.single ']', 0⟩], none⟩, r)
  | items, cs => some (⟨negated, items, none⟩, cs)

/-- Opens a set from behind the sign of its complement. -/
def openBehind (f : Flags) (negated : Bool) (cs : List Char) : Option (ClassFrame × List Char) :=
  let y := readWhile f (· == '-') cs.length [] cs
  openMembers f negated (y.1.reverse.map minus) y.2

theorem openClass_eq : openClass f cs =
    openBehind f ((f.skip cs).head? == some '^')
      (if (f.skip cs).head? == some '^' then f.skip ((f.skip cs).drop 1) else f.skip cs) := by
  have hminuses : ∀ ds, readMinuses f ds.length [] ds =
      ((readWhile f (· == '-') ds.length [] ds).1.reverse.map minus,
        (readWhile f (· == '-') ds.length [] ds).2) := by
    intro ds
    simpa using readMinuses_eq (f := f) [] []
  simp only [openClass, hminuses]
  rfl

theorem stopsAtBar_openMembers {negated : Bool} {items : List Nested} :
    StopsAtBar (openMembers f negated items) cs := by
  cases cs with
  | nil => exact stopsAtBar_nil (by cases items <;> rfl)
  | cons c r =>
    by_cases hfirst : items = [] ∧ c = ']'
    · obtain ⟨rfl, rfl⟩ := hfirst
      refine .cons ?_ fun _ => rfl
      refine .skipTo (f := f) (k := fun c r => some (⟨negated, [⟨.single ']', 0⟩], none⟩, c :: r)) ?_ ?_ ?_
      · intro ds c r h
        simp only [openMembers, h]
      · intro ds h
        simp only [openMembers, h]
      · intro c r
        have hrest : StopsAtBar
            (fun cs => some ((⟨negated, [⟨.single ']', 0⟩], none⟩ : ClassFrame), cs)) (c :: r) :=
          stopsAtBar_some
        exact hrest.congr rfl fun t => rfl
    · have hplain : ∀ r, openMembers f negated items (c :: r) = some (⟨negated, items, none⟩, c :: r) := by
        intro r
        rw [openMembers]
        · simp
        · exact fun r' hitems h => hfirst ⟨hitems, (List.cons.inj h).1⟩
      have hrest : StopsAtBar
          (fun cs => some ((⟨negated, items, none⟩ : ClassFrame), cs)) (c :: r) := stopsAtBar_some
      exact hrest.congr (hplain r) fun t => hplain _

theorem stopsAtBar_openBehind {negated : Bool} : StopsAtBar (openBehind f negated) cs := by
  have hread : StopsAtBar (fun cs => (some (readWhile f (· == '-') cs.length [] cs)).bind fun y =>
      openMembers f negated (y.1.reverse.map minus) y.2) cs :=
    .bind (stopsAtBar_readWhile (by decide)) fun _ _ => stopsAtBar_openMembers
  exact hread

theorem stopsAtBar_openClass : StopsAtBar (openClass f) cs := by
  refine .skipTo (f := f)
    (k := fun c r => openBehind f (c == '^') (if c == '^' then f.skip r else c :: r)) ?_ ?_ ?_
  · intro ds c r h
    simp only [openClass_eq, h, List.head?_cons, List.drop_one, List.tail_cons]
    rfl
  · intro ds h
    simp only [openClass_eq, h]
    rfl
  · intro c r
    by_cases hc : c = '^'
    · subst hc
      exact .cons (.afterSkip stopsAtBar_openBehind) fun _ => rfl
    · have hc : (c == '^') = false := beq_eq_false_iff_ne.mpr hc
      have hopen : StopsAtBar (openBehind f false) (c :: r) := stopsAtBar_openBehind
      refine hopen.congr ?_ fun t => ?_
      · simp [onCons, hc]
      · simp [onCons, hc]

/-! ### The body of a set -/

variable {α β : Type} {fuel : Nat} {frame : ClassFrame} {stack : List ClassFrame}

/-- What is read, and whether, does not depend on what stands behind a bar. -/
def BlindToBar (g : List Char → Option (α × List Char)) (cs : List Char) : Prop :=
  (∀ x rest, g cs = some (x, rest) → rest <:+ cs) ∧
    ∀ t, g (cs ++ '|' :: t) = (g cs).map fun y => (y.1, y.2 ++ '|' :: t)

/-- A reader that goes on behind what another reads, if it reads anything, and else does something
else. -/
theorem StopsAtBar.orElse {g : List Char → Option (α × List Char)}
    {other : List Char → Option (β × List Char)} {next : α × List Char → Option (β × List Char)}
    (h : BlindToBar g cs) (hother : StopsAtBar other cs)
    (hnext : ∀ x rest, StopsAtBar (fun cs => next (x, cs)) rest) :
    StopsAtBar (fun cs => (g cs).elim (other cs) next) cs := by
  obtain ⟨hsuffix, hbar⟩ := h
  rintro x rest hx
  cases hread : g cs with
  | none =>
    simp only [hread] at hx
    simpa [hbar, hread] using hother x rest hx
  | some y =>
    simp only [hread] at hx
    obtain ⟨hrest, hrest'⟩ := hnext y.1 y.2 x rest hx
    refine ⟨hrest.trans (hsuffix y.1 y.2 hread), ?_⟩
    simpa [hbar, hread] using hrest'

theorem blindToBar_readAsciiClass : BlindToBar (readAsciiClass f) cs :=
  ⟨fun _ _ h => readAsciiClass_suffix h, fun _ => readAsciiClass_append⟩

/-- Reads what stands behind the bracket of a set in a set: a class of ASCII characters, or a further
set. -/
def readInner (f : Flags) (fuel : Nat) (frame : ClassFrame) (stack : List ClassFrame)
    (cs : List Char) : Option (Nested × List Char) :=
  (readAsciiClass f cs).elim
    (do
      let (inner, rest) ← openClass f cs
      readClassBody f fuel inner (frame :: stack) rest)
    fun y => y.1.elim none fun s => readClassBody f fuel (frame.add ⟨s, 0⟩) stack y.2

/-- The operator that is written with a character, twice. -/
def operatorOf? (c : Char) : Option SetOperator :=
  if c = '&' then some .intersection
  else if c = '-' then some .difference
  else if c = '~' then some .symmetricDifference
  else none

/-- The operator that a text starts with, and what stands behind it. -/
def operator? : List Char → Option (SetOperator × List Char)
  | c :: d :: r => if c = d then (operatorOf? c).map fun op => (op, r) else none
  | _ => none

theorem blindToBar_operator? : BlindToBar operator? cs := by
  match cs with
  | [] => exact ⟨by simp [operator?], fun t => by cases t <;> simp [operator?, operatorOf?]⟩
  | [c] =>
    refine ⟨by simp [operator?], fun t => ?_⟩
    by_cases hc : c = '|' <;> simp [operator?, operatorOf?, hc]
  | c :: d :: r =>
    have hr : r <:+ c :: d :: r := (List.suffix_cons d r).trans (List.suffix_cons c _)
    refine ⟨fun op rest h => ?_, fun t => ?_⟩
    · rw [operator?] at h
      obtain ⟨-, h⟩ := Option.ite_none_right_eq_some.mp h
      obtain ⟨op', -, heq⟩ := Option.map_eq_some_iff.mp h
      obtain ⟨-, rfl⟩ := Prod.mk.inj heq
      exact hr
    · simp only [List.cons_append, operator?]
      split
      · cases operatorOf? c <;> rfl
      · rfl

/-- Reads a part of a set that does not begin with a bracket. -/
def readMember (f : Flags) (fuel : Nat) (frame : ClassFrame) (stack : List ClassFrame)
    (cs : List Char) : Option (Nested × List Char) :=
  (operator? cs).elim
    (do
      let (s, rest) ← readClassRange f cs
      readClassBody f fuel (frame.add ⟨s, 0⟩) stack rest)
    fun y => readClassBody f fuel (frame.operate f y.1) stack y.2

/-- Reads the bracket at the end of a set. -/
def readEnd (f : Flags) (fuel : Nat) (frame : ClassFrame) (stack : List ClassFrame)
    (cs : List Char) : Option (Nested × List Char) := do
  let s ← frame.close? f
  match stack with
  | [] => some (s, cs)
  | outer :: stack => readClassBody f fuel (outer.add s) stack cs

theorem readClassBody_succ {r : List Char} (h : f.skip cs = c :: r) :
    readClassBody f (fuel + 1) frame stack cs =
      if c = '[' then readInner f fuel frame stack r
      else if c = ']' then readEnd f fuel frame stack r
      else readMember f fuel frame stack (c :: r) := by
  rw [readClassBody, h]
  by_cases hopen : c = '['
  · subst hopen
    simp only [if_true, readInner]
    cases readAsciiClass f r with
    | none => rfl
    | some y =>
      obtain ⟨s, rest⟩ := y
      cases s <;> rfl
  by_cases hclose : c = ']'
  · subst hclose
    rfl
  rw [if_neg hopen, if_neg hclose, readMember]
  split
  · rename_i heq
    cases heq
  · rename_i heq
    exact absurd (List.cons.inj heq).1 hopen
  · rename_i heq
    exact absurd (List.cons.inj heq).1 hclose
  · rename_i heq
    obtain ⟨rfl, rfl⟩ := List.cons.inj heq
    rfl
  · rename_i heq
    obtain ⟨rfl, rfl⟩ := List.cons.inj heq
    rfl
  · rename_i heq
    obtain ⟨rfl, rfl⟩ := List.cons.inj heq
    rfl
  · rename_i hand hminus htilde
    have hnone : operator? (c :: r) = none := by
      cases r with
      | nil => rfl
      | cons d r =>
        rw [operator?, ite_eq_right_iff]
        rintro rfl
        simp_all [operatorOf?]
    rw [hnone]
    rfl

theorem stopsAtBar_readClassBody : StopsAtBar (readClassBody f fuel frame stack) cs := by
  induction fuel generalizing frame stack cs with
  | zero => exact stopsAtBar_none
  | succ fuel ih =>
    refine .skipTo (fun ds c r h => readClassBody_succ h) (fun ds h => by rw [readClassBody, h])
      fun c r => ?_
    by_cases hopen : c = '['
    · subst hopen
      have hopen : StopsAtBar (fun cs => (openClass f cs).bind fun y =>
          readClassBody f fuel y.1 (frame :: stack) y.2) r :=
        .bind stopsAtBar_openClass fun _ _ => ih
      have hinner : StopsAtBar (readInner f fuel frame stack) r := by
        refine .orElse blindToBar_readAsciiClass hopen fun s rest => ?_
        cases s with
        | none => exact stopsAtBar_none
        | some s => exact ih
      exact .cons hinner fun _ => rfl
    by_cases hclose : c = ']'
    · subst hclose
      refine .cons (.value fun s => ?_) fun _ => rfl
      cases stack with
      | nil => exact stopsAtBar_some
      | cons outer stack => exact ih
    have hrange : StopsAtBar (fun cs => (readClassRange f cs).bind fun y =>
        readClassBody f fuel (frame.add ⟨y.1, 0⟩) stack y.2) (c :: r) :=
      .bind stopsAtBar_readClassRange fun _ _ => ih
    have hmember : StopsAtBar (readMember f fuel frame stack) (c :: r) :=
      .orElse blindToBar_operator? hrange fun _ _ => ih
    refine hmember.congr ?_ fun t => ?_
    · rw [onCons, if_neg hopen, if_neg hclose]
    · rw [List.cons_append, onCons, if_neg hopen, if_neg hclose]

theorem bind_mono {o : Option α} {g g' : α → Option β} {b : β}
    (h : ∀ a, g a = some b → g' a = some b) (hb : o.bind g = some b) : o.bind g' = some b := by
  obtain ⟨a, ha, hb⟩ := Option.bind_eq_some_iff.mp hb
  exact Option.bind_eq_some_iff.mpr ⟨a, ha, h a hb⟩

theorem elim_mono {o : Option α} {d d' : Option β} {g g' : α → Option β} {b : β}
    (hd : d = some b → d' = some b) (h : ∀ a, g a = some b → g' a = some b)
    (hb : o.elim d g = some b) : o.elim d' g' = some b := by
  cases o with
  | none => exact hd hb
  | some a => exact h a hb

theorem readClassBody_mono {y : Nested × List Char} {m n : Nat} (hmn : m ≤ n)
    (h : readClassBody f m frame stack cs = some y) : readClassBody f n frame stack cs = some y := by
  induction m generalizing n frame stack cs with
  | zero => cases h
  | succ m ih =>
    cases n with
    | zero => exact absurd hmn (Nat.not_succ_le_zero m)
    | succ n =>
      have ih : ∀ {frame stack cs}, readClassBody f m frame stack cs = some y →
          readClassBody f n frame stack cs = some y := ih (Nat.le_of_succ_le_succ hmn)
      cases hskip : f.skip cs with
      | nil =>
        rw [readClassBody, hskip] at h
        cases h
      | cons c r =>
        rw [readClassBody_succ hskip] at h ⊢
        by_cases hopen : c = '['
        · rw [if_pos hopen] at h ⊢
          exact elim_mono (bind_mono fun _ => ih) (fun _ => elim_mono id fun _ => ih) h
        by_cases hclose : c = ']'
        · rw [if_neg hopen, if_pos hclose] at h ⊢
          refine bind_mono (fun s => ?_) h
          cases stack with
          | nil => exact id
          | cons outer stack => exact ih
        · rw [if_neg hopen, if_neg hclose] at h ⊢
          exact elim_mono (bind_mono fun _ => ih) (fun _ => ih) h

/-- A set in brackets is read without looking further than a bar. -/
theorem stopsAtBar_readClass : StopsAtBar (readClass f) cs :=
  .bind stopsAtBar_openClass fun frame _ => .fuel (s := fun n => readClassBody f n frame [])
    stopsAtBar_readClassBody fun _ _ _ _ => readClassBody_mono

end RuleMatching.Pattern
