import RuleMatching.Pattern.Class

/-!
How far reading a pattern looks ahead.  What is read in front of a bar does not depend on what stands
behind the bar, unless a comment reaches over it, as one in a verbose pattern may:
`stopsAtBar_readEscape`.
-/

set_option autoImplicit false
set_option relaxedAutoImplicit false

namespace RuleMatching.Pattern

/-- Reading stops at a bar: a text is read up to a rest of it, and with a bar behind the text up to that rest
in front of the bar.  Only a comment that goes on to the end of the text takes in a bar behind it, and then
nothing is left. -/
def StopsAtBar {α : Type} (g : List Char → Option (α × List Char)) (cs : List Char) : Prop :=
  ∀ x rest, g cs = some (x, rest) → rest <:+ cs ∧
    ((∀ t, g (cs ++ '|' :: t) = some (x, rest ++ '|' :: t)) ∨
      rest = [] ∧ g (cs ++ ['|']) = some (x, []))

variable {α β : Type} {f : Flags} {c : Char} {cs rest : List Char}
  {g g' : List Char → Option (α × List Char)}

/-! ### Blanks and comments -/

theorem skipComments_suffix (inComment : Bool) (cs : List Char) :
    Flags.skipComments inComment cs <:+ cs := by
  induction cs generalizing inComment with
  | nil => exact List.suffix_rfl
  | cons c cs ih =>
    rw [Flags.skipComments]
    split
    · exact (ih _).trans (List.suffix_cons c cs)
    · split
      · exact (ih _).trans (List.suffix_cons c cs)
      · split
        · exact (ih _).trans (List.suffix_cons c cs)
        · exact List.suffix_rfl

theorem skip_suffix (f : Flags) (cs : List Char) : f.skip cs <:+ cs := by
  rw [Flags.skip]
  split
  · exact skipComments_suffix _ cs
  · exact List.suffix_rfl

theorem skipComments_bar (inComment : Bool) (cs : List Char) :
    (∀ t, Flags.skipComments inComment (cs ++ '|' :: t) =
      Flags.skipComments inComment cs ++ '|' :: t) ∨
    Flags.skipComments inComment cs = [] ∧ Flags.skipComments inComment (cs ++ ['|']) = [] := by
  induction cs generalizing inComment with
  | nil =>
    cases inComment with
    | true => exact .inr ⟨rfl, rfl⟩
    | false => exact .inl fun t => rfl
  | cons c cs ih =>
    simp only [List.cons_append, Flags.skipComments]
    split
    · exact ih _
    · split
      · exact ih _
      · split
        · exact ih _
        · exact .inl fun t => rfl

/-- A bar is not skipped unless a comment takes it in. -/
theorem skip_bar (f : Flags) (cs : List Char) :
    (∀ t, f.skip (cs ++ '|' :: t) = f.skip cs ++ '|' :: t) ∨
      f.skip cs = [] ∧ f.skip (cs ++ ['|']) = [] := by
  unfold Flags.skip
  split
  · exact skipComments_bar false cs
  · exact .inl fun t => rfl

theorem skip_append_of_cons {r t : List Char} (h : f.skip cs = c :: r) :
    f.skip (cs ++ '|' :: t) = c :: (r ++ '|' :: t) := by
  obtain hbar | ⟨hnil, -⟩ := skip_bar f cs
  · rw [hbar, h, List.cons_append]
  · simp [hnil] at h

/-! ### Putting readers together -/

theorem stopsAtBar_some {x : α} : StopsAtBar (fun cs => some (x, cs)) cs := by
  rintro y rest h
  obtain ⟨rfl, rfl⟩ := Prod.mk.inj (Option.some.inj h)
  exact ⟨List.suffix_rfl, .inl fun t => rfl⟩

theorem stopsAtBar_skip {x : α} : StopsAtBar (fun cs => some (x, f.skip cs)) cs := by
  rintro y rest h
  obtain ⟨rfl, rfl⟩ := Prod.mk.inj (Option.some.inj h)
  refine ⟨skip_suffix f cs, (skip_bar f cs).imp (fun hbar t => ?_) fun ⟨hnil, hbar⟩ => ⟨hnil, ?_⟩⟩
  · simp only [hbar]
  · simp only [hbar]

theorem stopsAtBar_none : StopsAtBar (fun _ => (none : Option (α × List Char))) cs := by
  rintro x rest h
  cases h

theorem stopsAtBar_nil (h : g [] = none) : StopsAtBar g [] := by
  rintro x rest hx
  rw [h] at hx
  cases hx

theorem stopsAtBar_map {o : Option β} {g : β → α} :
    StopsAtBar (fun cs => o.map fun b => (g b, cs)) cs := by
  cases o with
  | none => exact stopsAtBar_none
  | some b => exact stopsAtBar_some

theorem StopsAtBar.value {o : Option β} {next : β → List Char → Option (α × List Char)}
    (h : ∀ b, StopsAtBar (next b) cs) : StopsAtBar (fun cs => o.bind fun b => next b cs) cs := by
  cases o with
  | none => exact stopsAtBar_none
  | some b => exact h b

theorem StopsAtBar.ite {p : Prop} [Decidable p] (h : StopsAtBar g cs)
    (h' : StopsAtBar g' cs) : StopsAtBar (fun cs => if p then g cs else g' cs) cs := by
  by_cases hp : p
  · simpa only [hp, if_true] using h
  · simpa only [hp, if_false] using h'

theorem StopsAtBar.bind {next : α × List Char → Option (β × List Char)}
    (h : StopsAtBar g cs) (hnext : ∀ x rest, StopsAtBar (fun cs => next (x, cs)) rest) :
    StopsAtBar (fun cs => (g cs).bind next) cs := by
  rintro y rest hy
  obtain ⟨⟨x, middle⟩, hx, hy⟩ := Option.bind_eq_some_iff.mp hy
  obtain ⟨hmiddle, hbar⟩ := h x middle hx
  obtain ⟨hrest, hbar'⟩ := hnext x middle y rest hy
  refine ⟨hrest.trans hmiddle, ?_⟩
  obtain hbar | ⟨rfl, hbar⟩ := hbar
  · refine hbar'.imp (fun hbar' t => ?_) fun ⟨hnil, hbar'⟩ => ⟨hnil, ?_⟩
    · simp only [hbar t, Option.bind_some]
      exact hbar' t
    · simp only [hbar [], Option.bind_some]
      exact hbar'
  · -- The comment that takes in the bar leaves nothing, with the bar as without it.
    obtain rfl := List.suffix_nil.mp hrest
    refine .inr ⟨rfl, ?_⟩
    simp only [hbar, Option.bind_some]
    exact hy

theorem StopsAtBar.afterSkip (h : StopsAtBar g (f.skip cs)) :
    StopsAtBar (fun cs => g (f.skip cs)) cs := by
  rintro x rest hx
  obtain ⟨hrest, hbar⟩ := h x rest hx
  refine ⟨hrest.trans (skip_suffix f cs), ?_⟩
  obtain hskip | ⟨hnil, hskip⟩ := skip_bar f cs
  · simpa only [hskip] using hbar
  · simp only [hnil] at hx hrest
    obtain rfl := List.suffix_nil.mp hrest
    refine .inr ⟨rfl, ?_⟩
    simpa only [hskip] using hx

/-- A reader that does what another does with this text. -/
theorem StopsAtBar.congr (h : StopsAtBar g' cs) (heq : g cs = g' cs)
    (hbar : ∀ t, g (cs ++ '|' :: t) = g' (cs ++ '|' :: t)) : StopsAtBar g cs := by
  intro x rest hx
  simpa only [hbar] using h x rest (heq ▸ hx)

/-- A reader that goes on behind the first character. -/
theorem StopsAtBar.cons (h : StopsAtBar g' cs) (heq : ∀ ds, g (c :: ds) = g' ds) :
    StopsAtBar g (c :: cs) := by
  rintro x rest hx
  rw [heq] at hx
  obtain ⟨hrest, hbar⟩ := h x rest hx
  refine ⟨hrest.trans (List.suffix_cons c cs), ?_⟩
  simpa only [List.cons_append, heq] using hbar

theorem ne_cons_append {d : Char} {t : List Char} (h : ∀ r, cs ≠ d :: r) (hd : d ≠ '|') :
    ∀ r, cs ++ '|' :: t ≠ d :: r := by
  rintro r heq
  cases cs with
  | nil => exact hd (List.cons.inj heq).1.symm
  | cons c cs => exact h cs (by rw [(List.cons.inj heq).1])

/-- A reader that goes on behind a certain character, and does something else where there is none. -/
theorem StopsAtBar.onChar {d : Char} {k o : List Char → Option (α × List Char)} (hd : d ≠ '|')
    (heq : ∀ r, g (d :: r) = k r) (hother : ∀ ds, (∀ r, ds ≠ d :: r) → g ds = o ds)
    (hk : ∀ r, StopsAtBar k r) (ho : StopsAtBar o cs) : StopsAtBar g cs := by
  by_cases hstarts : ∃ r, cs = d :: r
  · obtain ⟨r, rfl⟩ := hstarts
    exact .cons (hk r) heq
  · rw [not_exists] at hstarts
    exact ho.congr (hother cs hstarts) fun t => hother _ (ne_cons_append hstarts hd)

/-- A reader that needs a character behind what is skipped. -/
def onCons (k : Char → List Char → Option (α × List Char)) : List Char → Option (α × List Char)
  | [] => none
  | c :: r => k c r

theorem StopsAtBar.skipTo {k : Char → List Char → Option (α × List Char)}
    (heq : ∀ ds c r, f.skip ds = c :: r → g ds = k c r)
    (hnil : ∀ ds, f.skip ds = [] → g ds = none)
    (h : ∀ c r, StopsAtBar (onCons k) (c :: r)) : StopsAtBar g cs := by
  have hread : ∀ ds, g ds = onCons k (f.skip ds) := by
    intro ds
    cases hskip : f.skip ds with
    | nil => exact hnil ds hskip
    | cons c r => exact heq ds c r hskip
  obtain rfl : g = fun ds => onCons k (f.skip ds) := funext hread
  refine .afterSkip ?_
  cases f.skip cs with
  | nil => exact stopsAtBar_nil rfl
  | cons c r => exact h c r

/-- A reader that goes on behind the first character that is not skipped. -/
theorem StopsAtBar.skipCons {k : Char → List Char → Option (α × List Char)}
    (heq : ∀ ds c r, f.skip ds = c :: r → g ds = k c r)
    (hnil : ∀ ds, f.skip ds = [] → g ds = none)
    (h : ∀ c r, StopsAtBar (k c) r) : StopsAtBar g cs :=
  .skipTo heq hnil fun c r => .cons (h c r) fun _ => rfl

/-- A reader whose fuel is as much as the text is long, so that the bar gives it more. -/
theorem StopsAtBar.fuel {s : Nat → List Char → Option (α × List Char)}
    (h : StopsAtBar (s (cs.length + 1)) cs)
    (hmore : ∀ ds y m n, m ≤ n → s m ds = some y → s n ds = some y) :
    StopsAtBar (fun cs => s (cs.length + 1) cs) cs := by
  rintro x rest hx
  obtain ⟨hrest, hbar⟩ := h x rest hx
  have hlength : ∀ t, cs.length + 1 ≤ (cs ++ '|' :: t).length + 1 := by
    intro t
    rw [List.length_append]
    omega
  exact ⟨hrest, hbar.imp (fun hbar t => hmore _ _ _ _ (hlength t) (hbar t)) fun ⟨hnil, hbar⟩ =>
    ⟨hnil, hmore _ _ _ _ (hlength []) hbar⟩⟩

/-! ### Escapes -/

theorem stopsAtBar_readHexDigits {count n : Nat} : StopsAtBar (readHexDigits f count n) cs := by
  induction count generalizing n cs with
  | zero => exact stopsAtBar_some
  | succ count ih =>
    cases cs with
    | nil => exact stopsAtBar_nil rfl
    | cons c cs => exact .cons (.value fun d => .afterSkip ih) fun ds => rfl

theorem stopsAtBar_readHexBraced {fuel : Nat} {ds : List Nat} :
    StopsAtBar (readHexBraced f fuel ds) cs := by
  induction fuel generalizing ds cs with
  | zero => exact stopsAtBar_none
  | succ fuel ih =>
    refine .skipCons (k := ?_) ?_ (fun ds h => by rw [readHexBraced, h]) fun c r => ?_
    rotate_left
    · intro ds c r h
      rw [readHexBraced, h]
    · by_cases hc : c = '\x7d'
      · subst hc
        exact stopsAtBar_skip
      · simp only [Option.bind_eq_bind]
        exact .value fun d => ih

theorem readHexBraced_mono {ds : List Nat} {y : List Nat × List Char} {m n : Nat} (hmn : m ≤ n)
    (h : readHexBraced f m ds cs = some y) : readHexBraced f n ds cs = some y := by
  induction m generalizing n ds cs with
  | zero => cases h
  | succ m ih =>
    cases n with
    | zero => exact absurd hmn (Nat.not_succ_le_zero m)
    | succ n =>
      rw [readHexBraced] at h ⊢
      split at h
      · cases h
      · exact h
      · obtain ⟨d, hd, h⟩ := Option.bind_eq_some_iff.mp h
        exact Option.bind_eq_some_iff.mpr ⟨d, hd, ih (Nat.le_of_succ_le_succ hmn) h⟩

theorem stopsAtBar_readBraced {fuel : Nat} {seen : List Char} :
    StopsAtBar (readBraced f fuel seen) cs := by
  induction fuel generalizing seen cs with
  | zero => exact stopsAtBar_none
  | succ fuel ih =>
    refine .skipCons (k := ?_) ?_ (fun ds h => by rw [readBraced, h]) fun c r => ?_
    rotate_left
    · intro ds c r h
      rw [readBraced, h]
    · by_cases hc : c = '\x7d'
      · subst hc
        exact stopsAtBar_some
      · simp only
        exact ih

theorem readBraced_mono {seen : List Char} {y : List Char × List Char} {m n : Nat} (hmn : m ≤ n)
    (h : readBraced f m seen cs = some y) : readBraced f n seen cs = some y := by
  induction m generalizing n seen cs with
  | zero => cases h
  | succ m ih =>
    cases n with
    | zero => exact absurd hmn (Nat.not_succ_le_zero m)
    | succ n =>
      rw [readBraced] at h ⊢
      split at h
      · cases h
      · exact h
      · exact ih (Nat.le_of_succ_le_succ hmn) h

theorem stopsAtBar_readHex {digits : Nat} : StopsAtBar (readHex f (digits + 1)) cs := by
  refine .skipCons (k := ?_) ?_ (fun ds h => by rw [readHex, h]) fun c r => ?_
  rotate_left
  · intro ds c r h
    rw [readHex, h]
  · by_cases hc : c = '\x7b'
    · subst hc
      refine .bind (.fuel (s := fun n => readHexBraced f n []) stopsAtBar_readHexBraced
        fun _ _ _ _ => readHexBraced_mono) fun ds rest => ?_
      cases ds with
      | nil => exact stopsAtBar_none
      | cons d ds => exact .value fun c => stopsAtBar_some
    · simp only [readHexDigits, Option.bind_eq_bind]
      exact .bind (.value fun d => .afterSkip stopsAtBar_readHexDigits) fun n rest =>
        .value fun d => stopsAtBar_some

theorem stopsAtBar_readProperty {negated : Bool} : StopsAtBar (readProperty f negated) cs := by
  unfold readProperty
  split
  · exact stopsAtBar_none
  · refine .skipCons (k := ?_) ?_ (fun ds h => by rw [h]) fun c r => ?_
    rotate_left
    · intro ds c r h
      rw [h]
    · by_cases hc : c = '\x7b'
      · subst hc
        exact .bind (.fuel (s := fun n => readBraced f n []) stopsAtBar_readBraced
          fun _ _ _ _ => readBraced_mono) fun text rest => .value fun s => stopsAtBar_some
      · by_cases hslash : c = '\\'
        · subst hslash
          exact stopsAtBar_none
        · simp only [hslash, if_false]
          exact .value fun s => stopsAtBar_skip

/-- Reads characters with a property, and skips what does not count behind each. -/
def readWhile (f : Flags) (p : Char → Bool) : Nat → List Char → List Char → List Char × List Char
  | 0, seen, cs => (seen.reverse, cs)
  | _ + 1, seen, [] => (seen.reverse, [])
  | fuel + 1, seen, c :: cs =>
      if p c then readWhile f p fuel (c :: seen) (f.skip cs) else (seen.reverse, c :: cs)

theorem readBoundaryName_eq {fuel : Nat} {seen : List Char} :
    readBoundaryName f fuel seen cs = readWhile f isBoundaryChar fuel seen cs := by
  induction fuel generalizing seen cs with
  | zero => rfl
  | succ fuel ih => cases cs <;> simp [readBoundaryName, readWhile, ih]

theorem readWhile_nil {p : Char → Bool} {n : Nat} {seen : List Char} :
    readWhile f p n seen [] = (seen.reverse, []) := by
  cases n <;> rfl

theorem readWhile_stop {p : Char → Bool} (hc : p c = false) {n : Nat} {seen : List Char} :
    readWhile f p n seen (c :: cs) = (seen.reverse, c :: cs) := by
  cases n <;> simp [readWhile, hc]

theorem readWhile_bar {p : Char → Bool} {seen ds : List Char} {m : Nat}
    (h : readWhile f p m seen cs = (ds, rest)) (hp : p '|' = false) (hm : cs.length ≤ m) :
    rest <:+ cs ∧
      ((∀ t n, cs.length ≤ n → readWhile f p n seen (cs ++ '|' :: t) = (ds, rest ++ '|' :: t)) ∨
        rest = [] ∧ ∀ n, cs.length ≤ n → readWhile f p n seen (cs ++ ['|']) = (ds, [])) := by
  induction m generalizing seen cs with
  | zero =>
    obtain rfl := List.length_eq_zero_iff.mp (Nat.le_zero.mp hm)
    obtain ⟨rfl, rfl⟩ := Prod.mk.inj h
    exact ⟨List.suffix_rfl, .inl fun t n _ => readWhile_stop hp⟩
  | succ m ih =>
    cases cs with
    | nil =>
      obtain ⟨rfl, rfl⟩ := Prod.mk.inj h
      exact ⟨List.suffix_rfl, .inl fun t n _ => readWhile_stop hp⟩
    | cons c r =>
      cases hc : p c with
      | false =>
        rw [readWhile_stop hc] at h
        obtain ⟨rfl, rfl⟩ := Prod.mk.inj h
        exact ⟨List.suffix_rfl, .inl fun t n _ => readWhile_stop hc⟩
      | true =>
        have hstep : ∀ k ds, readWhile f p (k + 1) seen (c :: ds) =
            readWhile f p k (c :: seen) (f.skip ds) := fun k ds => if_pos hc
        have hlength := (skip_suffix f r).length_le
        rw [List.length_cons] at hm
        rw [hstep] at h
        obtain ⟨hrest, hbar⟩ := ih h (by omega)
        refine ⟨(hrest.trans (skip_suffix f r)).trans (List.suffix_cons c r), ?_⟩
        obtain hskip | ⟨hnil, hskip⟩ := skip_bar f r
        · refine hbar.imp (fun hbar t n hn => ?_) fun ⟨hnil, hbar⟩ => ⟨hnil, fun n hn => ?_⟩
          · obtain ⟨k, rfl⟩ := Nat.exists_eq_add_of_lt hn
            rw [List.cons_append, hstep, hskip]
            exact hbar t _ (by omega)
          · obtain ⟨k, rfl⟩ := Nat.exists_eq_add_of_lt hn
            rw [List.cons_append, hstep, hskip]
            exact hbar _ (by omega)
        · rw [hnil, readWhile_nil] at h
          obtain ⟨rfl, rfl⟩ := Prod.mk.inj h
          refine .inr ⟨rfl, fun n hn => ?_⟩
          obtain ⟨k, rfl⟩ := Nat.exists_eq_add_of_lt hn
          rw [List.cons_append, hstep, hskip, readWhile_nil]

theorem stopsAtBar_readWhile {p : Char → Bool} {seen : List Char} (hp : p '|' = false) :
    StopsAtBar (fun cs => some (readWhile f p cs.length seen cs)) cs := by
  rintro ds rest h
  obtain ⟨hrest, hbar⟩ := readWhile_bar (Option.some.inj h) hp (Nat.le_refl _)
  have hlength : ∀ t, cs.length ≤ (cs ++ '|' :: t).length := by
    intro t
    rw [List.length_append]
    omega
  exact ⟨hrest, hbar.imp (fun hbar t => congrArg some (hbar t _ (hlength t))) fun ⟨hnil, hbar⟩ =>
    ⟨hnil, congrArg some (hbar _ (hlength []))⟩⟩

theorem readBoundary_of_not_brace (h : ∀ r, cs ≠ '\x7b' :: r) :
    readBoundary f cs = some (.look (.wordBoundary (!f.unicode)), cs) := by
  unfold readBoundary
  split
  · rename_i r
    exact absurd rfl (h r)
  · rfl

theorem stopsAtBar_readBoundary : StopsAtBar (readBoundary f) cs := by
  rintro x rest hx
  by_cases hbrace : ∃ r, cs = '\x7b' :: r
  · obtain ⟨r, rfl⟩ := hbrace
    rw [readBoundary] at hx
    split at hx
    · cases hx
    · rename_i c r' hskip
      have hr' : c :: r' <:+ '\x7b' :: r := (hskip ▸ skip_suffix f r).trans (List.suffix_cons _ r)
      split at hx
      · rename_i hc
        rw [readBoundaryName_eq] at hx
        obtain ⟨⟨name, rest'⟩, hname⟩ : ∃ y, readWhile f isBoundaryChar (r'.length + 1) [] (c :: r') = y :=
          ⟨_, rfl⟩
        simp only [hname] at hx
        split at hx
        · rename_i rest'
          obtain ⟨l, hl, hx⟩ := Option.map_eq_some_iff.mp hx
          obtain ⟨rfl, rfl⟩ := Prod.mk.inj hx
          obtain ⟨hrest, hbar | ⟨hnil, -⟩⟩ := readWhile_bar hname (by decide) (Nat.le_refl _)
          · refine ⟨((List.suffix_cons _ rest').trans hrest).trans hr', .inl fun t => ?_⟩
            have hbar := hbar t ((r' ++ '|' :: t).length + 1) (by simp)
            rw [List.cons_append, readBoundary]
            simp only [skip_append_of_cons hskip, hc, if_true, readBoundaryName_eq]
            rw [← List.cons_append, hbar]
            simp only [List.cons_append, hl, Option.map_some]
          · cases hnil
        · cases hx
      · rename_i hc
        obtain ⟨rfl, rfl⟩ := Prod.mk.inj (Option.some.inj hx)
        refine ⟨List.suffix_rfl, .inl fun t => ?_⟩
        rw [List.cons_append, readBoundary]
        simp only [skip_append_of_cons hskip, hc]
        simp
  · rw [not_exists] at hbrace
    rw [readBoundary_of_not_brace hbrace] at hx
    obtain ⟨rfl, rfl⟩ := Prod.mk.inj (Option.some.inj hx)
    exact ⟨List.suffix_rfl, .inl fun t =>
      readBoundary_of_not_brace (ne_cons_append hbrace (by decide))⟩

/-- What a backslash stands for is read without looking further than a bar. -/
theorem stopsAtBar_readEscape : StopsAtBar (readEscape f) cs := by
  cases cs with
  | nil => exact stopsAtBar_nil rfl
  | cons c r =>
    refine .cons ?_ fun _ => rfl
    simp only [readEscape]
    repeat' first
      | exact stopsAtBar_none
      | exact stopsAtBar_some
      | exact stopsAtBar_map
      | exact stopsAtBar_readHex
      | exact stopsAtBar_readProperty
      | exact stopsAtBar_readBoundary
      | refine .ite ?_ ?_

end RuleMatching.Pattern
