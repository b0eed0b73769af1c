import RuleMatching.Pattern.Reader
import RuleMatching.Proofs.Pattern.Brackets

/-!
The parts of a pattern are read without looking further than a bar, whatever the part is:
`stopsAtBar_readOn`.
-/

set_option autoImplicit false
set_option relaxedAutoImplicit false

namespace RuleMatching.Pattern

variable {α β : Type} {f : Flags} {c : Char} {cs rest : List Char}
  {g : List Char → Option (α × List Char)}

/-! ### Counts -/

theorem StopsAtBar.afterTrim (h : StopsAtBar g (Text.trimStart cs)) :
    StopsAtBar (fun cs => g (Text.trimStart cs)) cs := by
  have htrim : ∀ t, Text.trimStart (cs ++ '|' :: t) = Text.trimStart cs ++ '|' :: t := fun t =>
    dropWhile_append_bar (by decide)
  rintro x rest hx
  obtain ⟨hrest, hbar⟩ := h x rest hx
  refine ⟨hrest.trans (List.dropWhile_suffix _), ?_⟩
  simpa only [htrim] using hbar

theorem readDigits_eq {fuel : Nat} {seen : List Char} :
    readDigits f fuel seen cs = readWhile f Char.isDigit fuel seen cs := by
  induction fuel generalizing seen cs with
  | zero => rfl
  | succ fuel ih => cases cs <;> simp [readDigits, readWhile, ih]

theorem stopsAtBar_readCount : StopsAtBar (fun cs => some (readCount f cs)) cs := by
  have hdigits : StopsAtBar (fun cs => (some (readWhile f Char.isDigit cs.length [] cs)).bind fun y =>
      some (y.1, Text.trimStart y.2)) (Text.trimStart cs) :=
    .bind (stopsAtBar_readWhile (by decide)) fun _ _ => .afterTrim stopsAtBar_some
  refine hdigits.afterTrim.congr ?_ fun t => ?_
  · simp [readCount, readDigits_eq]
  · simp [readCount, readDigits_eq]

/-- Reads the count behind a comma. -/
def readMost (f : Flags) (ds : List Char) (cs : List Char) : Option ((Nat × Option Nat) × List Char) := do
  let least ← countOf? ds
  let (es, rest) ← some (readCount f cs)
  let most ← countOf? es
  match rest with
  | '\x7d' :: rest => if least ≤ most then some ((least, some most), rest) else none
  | _ => none

theorem stopsAtBar_readMost {ds : List Char} : StopsAtBar (readMost f ds) cs := by
  refine .value fun least => .bind stopsAtBar_readCount fun es rest => .value fun most => ?_
  refine .onChar (d := '\x7d') (o := fun _ => none) (by decide) (fun _ => rfl) (fun ds h => ?_)
    (fun r => .ite stopsAtBar_some stopsAtBar_none) stopsAtBar_none
  split
  · exact absurd rfl (h _)
  · rfl

/-- Reads what stands behind a comma: the end, or another count. -/
def readCountsComma (f : Flags) (ds : List Char) :
    List Char → Option ((Nat × Option Nat) × List Char)
  | '\x7d' :: rest => do
      let least ← countOf? ds
      some ((least, none), rest)
  | r => readMost f ds r

/-- Reads the end of a count that stands alone. -/
def readExact (ds : List Char) : List Char → Option ((Nat × Option Nat) × List Char)
  | '\x7d' :: rest => do
      let count ← countOf? ds
      some ((count, some count), rest)
  | _ => none

/-- Reads the counts from behind the first. -/
def readCountsBehind (f : Flags) (ds : List Char) :
    List Char → Option ((Nat × Option Nat) × List Char)
  | ',' :: r => readCountsComma f ds (f.skip r)
  | r => readExact ds r

theorem readCounts_eq : readCounts f cs =
    (some (readCount f (f.skip cs))).bind fun y => readCountsBehind f y.1 y.2 := by
  rw [readCounts, Option.bind_some]
  generalize readCount f (f.skip cs) = y
  obtain ⟨ds, rest⟩ := y
  dsimp only
  split
  · rename_i r
    change _ = readCountsComma f ds (f.skip r)
    split
    · rename_i heq
      rw [heq]
      rfl
    · rename_i hne
      rw [readCountsComma]
      · rfl
      · exact hne
  · rfl
  · rename_i hcomma hbrace
    rw [readCountsBehind, readExact]
    · exact hbrace
    · exact hcomma

theorem stopsAtBar_readCountsComma {ds : List Char} : StopsAtBar (readCountsComma f ds) cs := by
  refine .onChar (d := '\x7d') (o := readMost f ds) (by decide) (fun _ => rfl) (fun es h => ?_)
    (fun r => .value fun least => stopsAtBar_some) stopsAtBar_readMost
  rw [readCountsComma]
  exact h

theorem stopsAtBar_readExact {ds : List Char} : StopsAtBar (readExact ds) cs := by
  refine .onChar (d := '\x7d') (o := fun _ => none) (by decide) (fun _ => rfl) (fun es h => ?_)
    (fun r => .value fun count => stopsAtBar_some) stopsAtBar_none
  rw [readExact]
  exact h

theorem stopsAtBar_readCountsBehind {ds : List Char} : StopsAtBar (readCountsBehind f ds) cs := by
  refine .onChar (d := ',') (k := fun r => readCountsComma f ds (f.skip r)) (o := readExact ds)
    (by decide) (fun _ => rfl) (fun es h => ?_) (fun r => .afterSkip stopsAtBar_readCountsComma)
    stopsAtBar_readExact
  rw [readCountsBehind]
  exact h

theorem stopsAtBar_readCounts : StopsAtBar (readCounts f) cs := by
  have heq : readCounts f = fun cs => (some (readCount f (f.skip cs))).bind fun y =>
      readCountsBehind f y.1 y.2 := funext fun _ => readCounts_eq
  rw [heq]
  exact .bind (.afterSkip (g := fun cs => some (readCount f cs)) stopsAtBar_readCount)
    fun _ _ => stopsAtBar_readCountsBehind

/-! ### Groups -/

theorem readSettings_bar {negated dangling : Bool} {seen : List FlagName}
    {settings : List (FlagName × Bool)}
    (h : readSettings negated dangling seen cs = some (settings, rest)) :
    rest <:+ cs ∧ ∀ t, readSettings negated dangling seen (cs ++ '|' :: t) =
      some (settings, rest ++ '|' :: t) := by
  induction cs generalizing negated dangling seen settings with
  | nil => cases h
  | cons c cs ih =>
    rw [readSettings] at h
    simp only [List.cons_append, readSettings]
    split at h
    · rename_i hend
      obtain ⟨hdangling, h⟩ := Option.ite_none_left_eq_some.mp h
      obtain ⟨rfl, rfl⟩ := Prod.mk.inj (Option.some.inj h)
      exact ⟨List.suffix_rfl, fun t => by rw [if_pos hend, if_neg hdangling]; rfl⟩
    · rename_i hend
      simp only [if_neg hend]
      split at h
      · rename_i hminus
        obtain ⟨hnegated, h⟩ := Option.ite_none_left_eq_some.mp h
        obtain ⟨hrest, hbar⟩ := ih h
        refine ⟨hrest.trans (List.suffix_cons c cs), fun t => ?_⟩
        rw [if_pos hminus, if_neg hnegated]
        exact hbar t
      · rename_i hminus
        simp only [if_neg hminus]
        split at h
        · cases h
        · obtain ⟨hseen, h⟩ := Option.ite_none_left_eq_some.mp h
          obtain ⟨⟨below, rest'⟩, hbelow, h⟩ := Option.map_eq_some_iff.mp h
          obtain ⟨rfl, rfl⟩ := Prod.mk.inj h
          obtain ⟨hrest, hbar⟩ := ih hbelow
          refine ⟨hrest.trans (List.suffix_cons c cs), fun t => ?_⟩
          rw [if_neg hseen, hbar]
          rfl

/-- The name in front of a bracket, if it is one, and what stands behind. -/
theorem readName_append {name : List Char} (hname : '>' ∉ name) :
    readName (name ++ '>' :: cs) =
      if name.head?.any startsName && name.tail.all continuesName then some (name, cs) else none := by
  have hne := decide_ne_of_not_mem hname
  rw [readName, List.takeWhile_append_of_pos hne, List.dropWhile_append_of_pos hne]
  cases name <;> simp

theorem readName_of_not_mem (h : '>' ∉ cs) : readName cs = none := by
  rw [readName, List.dropWhile_eq_nil_iff.mpr (decide_ne_of_not_mem h)]
  simp

theorem readName_bar {name : List Char} (h : readName cs = some (name, rest)) :
    rest <:+ cs ∧ ∀ t, readName (cs ++ '|' :: t) = some (name, rest ++ '|' :: t) := by
  by_cases hend : '>' ∈ cs
  · obtain ⟨before, behind, rfl, hbefore⟩ := List.eq_append_cons_of_mem hend
    rw [readName_append hbefore] at h
    obtain ⟨hlegal, h⟩ := Option.ite_none_right_eq_some.mp h
    obtain ⟨rfl, rfl⟩ := Prod.mk.inj (Option.some.inj h)
    refine ⟨(List.suffix_cons _ _).trans (List.suffix_append _ _), fun t => ?_⟩
    rw [List.append_assoc, List.cons_append, readName_append hbefore, if_pos hlegal]
  · rw [readName_of_not_mem hend] at h
    cases h

theorem openNamed_bar {r r' : Reader} (h : openNamed r cs = some (r', rest)) :
    rest <:+ cs ∧ ∀ t, openNamed r (cs ++ '|' :: t) = some (r', rest ++ '|' :: t) := by
  obtain ⟨⟨name, rest'⟩, hname, h⟩ := Option.bind_eq_some_iff.mp h
  obtain ⟨hrest, hbar⟩ := readName_bar hname
  dsimp only at h
  obtain ⟨hfresh, h⟩ := Option.ite_none_left_eq_some.mp h
  obtain ⟨rfl, rfl⟩ := Prod.mk.inj (Option.some.inj h)
  refine ⟨hrest, fun t => ?_⟩
  rw [openNamed, hbar t]
  exact if_neg hfresh

theorem ne_cons_cons_append {d e : Char} {t : List Char} (h : ∀ r, cs ≠ d :: e :: r) (hd : d ≠ '|')
    (he : e ≠ '|') : ∀ r, cs ++ '|' :: t ≠ d :: e :: r := by
  rintro r heq
  match cs with
  | [] => exact hd (List.cons.inj heq).1.symm
  | [c] => exact he (List.cons.inj (List.cons.inj heq).2).1.symm
  | c :: b :: cs =>
    obtain ⟨hc, heq⟩ := List.cons.inj heq
    exact h cs (by rw [hc, (List.cons.inj heq).1])

/-- Opens a group behind settings of flags, or sets them for what follows. -/
def openSet (r : Reader) (settings : List (FlagName × Bool)) : List Char → Option (Reader × List Char)
  | ')' :: rest =>
      if settings.isEmpty then none
      else some ({ r.add .setting with flags := r.flags.setAll settings }, rest)
  | _ :: rest => some (r.openGroup (r.flags.setAll settings) false, rest)
  | [] => none

theorem openSet_bar {r r' : Reader} {settings : List (FlagName × Bool)}
    (h : openSet r settings cs = some (r', rest)) :
    rest <:+ cs ∧ ∀ t, openSet r settings (cs ++ '|' :: t) = some (r', rest ++ '|' :: t) := by
  unfold openSet at h
  split at h
  · obtain ⟨hsome, h⟩ := Option.ite_none_left_eq_some.mp h
    obtain ⟨rfl, rfl⟩ := Prod.mk.inj (Option.some.inj h)
    exact ⟨List.suffix_cons _ _, fun t => if_neg hsome⟩
  · rename_i c ds hc
    obtain ⟨rfl, rfl⟩ := Prod.mk.inj (Option.some.inj h)
    refine ⟨List.suffix_cons _ _, fun t => ?_⟩
    rw [List.cons_append, openSet]
    exact hc
  · cases h

theorem readGroup_bar {r r' : Reader} (h : readGroup r cs = some (r', rest)) :
    rest <:+ cs ∧ ∀ t, readGroup r (cs ++ '|' :: t) = some (r', rest ++ '|' :: t) := by
  unfold readGroup at h
  split at h
  · cases h
  · cases h
  · cases h
  · cases h
  · obtain ⟨hrest, hbar⟩ := openNamed_bar h
    exact ⟨hrest.trans (List.suffix_append ['?', 'P', '<'] _), hbar⟩
  · rename_i ds hahead hahead'
    obtain ⟨hrest, hbar⟩ := openNamed_bar h
    refine ⟨hrest.trans (List.suffix_append ['?', '<'] _), fun t => ?_⟩
    simp only [List.cons_append]
    rw [readGroup, hbar t]
    · exact ne_cons_append hahead (by decide)
    · exact ne_cons_append hahead' (by decide)
  · rename_i ds h₁ h₂ h₃ h₄ h₅ h₆
    obtain ⟨⟨settings, rest'⟩, hsettings, h⟩ := Option.bind_eq_some_iff.mp h
    obtain ⟨hrest', hbar⟩ := readSettings_bar hsettings
    obtain ⟨hrest, hbar'⟩ := openSet_bar (show openSet r settings rest' = _ from h)
    refine ⟨(hrest.trans hrest').trans (List.suffix_cons _ _), fun t => ?_⟩
    rw [List.cons_append, readGroup, hbar t]
    · exact hbar' t
    · exact ne_cons_append h₁ (by decide)
    · exact ne_cons_append h₂ (by decide)
    · exact ne_cons_cons_append h₃ (by decide) (by decide)
    · exact ne_cons_cons_append h₄ (by decide) (by decide)
    · exact ne_cons_cons_append h₅ (by decide) (by decide)
    · exact ne_cons_append h₆ (by decide)
  · rename_i h₁ h₂ h₃ h₄ h₅ h₆ hplain
    obtain ⟨rfl, rfl⟩ := Prod.mk.inj (Option.some.inj h)
    have hbar := fun t => ne_cons_append (t := t) hplain (by decide)
    refine ⟨List.suffix_rfl, fun t => ?_⟩
    rw [readGroup]
    all_goals exact fun _ => hbar t _

/-! ### Parts -/

theorem stopsAtBar_repeatLast {r : Reader} {least : Nat} {most : Option Nat} :
    StopsAtBar (r.repeatLast least most) cs := by
  rintro x rest h
  unfold Reader.repeatLast at h ⊢
  split at h
  · obtain ⟨rfl, rfl⟩ := Prod.mk.inj (Option.some.inj h)
    refine ⟨?_, .inl fun t => ?_⟩
    · split
      · exact List.drop_suffix 1 cs
      · exact List.suffix_rfl
    · cases cs with
      | nil => rfl
      | cons c cs =>
        simp only [List.cons_append, List.head?_cons, List.drop_one, List.tail_cons]
        split <;> rfl
  · cases h

theorem stopsAtBar_readEscaped {r : Reader} : StopsAtBar (readEscaped r) cs := by
  refine .bind stopsAtBar_readEscape fun unit rest => ?_
  cases unit with
  | literal c byte => exact .value fun n => stopsAtBar_some
  | set s => exact stopsAtBar_some
  | look l => exact stopsAtBar_some

/-- A part is read without looking further than a bar. -/
theorem stopsAtBar_readOn {r : Reader} : StopsAtBar (readOn r c) cs := by
  unfold readOn
  split
  · refine .afterSkip fun r' rest h => ?_
    obtain ⟨hrest, hbar⟩ := readGroup_bar h
    exact ⟨hrest, .inl hbar⟩
  · exact stopsAtBar_map
  · exact stopsAtBar_some
  · exact .bind stopsAtBar_readClass fun s rest => stopsAtBar_some
  · exact stopsAtBar_repeatLast
  · exact stopsAtBar_repeatLast
  · exact stopsAtBar_repeatLast
  · exact .bind stopsAtBar_readCounts fun counts rest => .afterSkip stopsAtBar_repeatLast
  · exact stopsAtBar_readEscaped
  · exact stopsAtBar_map
  · exact stopsAtBar_some
  · exact stopsAtBar_some
  · exact stopsAtBar_map

end RuleMatching.Pattern
