import RuleMatching.Matcher.Batch
import RuleMatching.Proofs.Matcher.Memory

/-!
The shares of many rules.  They hold every rule once, so the results are those of the single rules in their
order: `Gives.evaluateAll_of_ends`.  A fault that gets out of a rule costs the rules of its share and no
other, if there are several workers: `Gives.evaluateAll_of_workers`.
-/

set_option autoImplicit false
set_option relaxedAutoImplicit false

namespace RuleMatching

/-- Shares of a length of at least one hold every element once, in order. -/
theorem flatten_sharesOf {α : Type} {length fuel : Nat} (hlength : 0 < length) {as : List α}
    (hfuel : as.length ≤ fuel) : (sharesOf length fuel as).flatten = as := by
  induction fuel generalizing as with
  | zero =>
    obtain rfl : as = [] := List.length_eq_zero_iff.mp (Nat.le_zero.mp hfuel)
    rfl
  | succ fuel ih =>
    cases as with
    | nil => rfl
    | cons a as =>
      have hrest : ((a :: as).drop length).length ≤ fuel := by
        rw [List.length_drop]
        omega
      rw [sharesOf, List.flatten_cons, ih hrest, List.take_append_drop]

/-- The share with a number is the window of the list that starts at as many lengths. -/
theorem getElem?_sharesOf {α : Type} {length fuel : Nat} (hlength : 0 < length) {as : List α}
    (hfuel : as.length ≤ fuel) (k : Nat) :
    (sharesOf length fuel as)[k]? =
      if k * length < as.length then some ((as.drop (k * length)).take length) else none := by
  induction fuel generalizing as k with
  | zero =>
    obtain rfl : as = [] := List.length_eq_zero_iff.mp (Nat.le_zero.mp hfuel)
    rfl
  | succ fuel ih =>
    cases as with
    | nil => simp [sharesOf]
    | cons a as =>
      cases k with
      | zero => simp [sharesOf]
      | succ k =>
        have hrest : ((a :: as).drop length).length ≤ fuel := by
          rw [List.length_drop]
          omega
        have hstart : length + k * length = (k + 1) * length := by rw [Nat.succ_mul, Nat.add_comm]
        rw [sharesOf, List.getElem?_cons_succ, ih hrest, List.drop_drop, List.length_drop, hstart]
        congr 1
        rw [← hstart, eq_iff_iff]
        omega

/-- The number of elements of a share. -/
def shareLength (workers count : Nat) : Nat :=
  (count + max (min workers count) 1 - 1) / max (min workers count) 1

theorem shareLength_pos {count : Nat} (hcount : 0 < count) (workers : Nat) :
    0 < shareLength workers count :=
  Nat.div_pos (by omega) (by omega)

theorem shares_eq {α : Type} (workers : Nat) (as : List α) :
    shares workers as = sharesOf (shareLength workers as.length) as.length as := rfl

/-- The shares for any number of workers hold every element once, in order. -/
theorem flatten_shares {α : Type} (workers : Nat) (as : List α) :
    (shares workers as).flatten = as := by
  cases as with
  | nil => rfl
  | cons a as => exact flatten_sharesOf (shareLength_pos (by simp) workers) (Nat.le_refl _)

theorem mem_shares_iff {α : Type} {workers : Nat} {as s : List α} :
    s ∈ shares workers as ↔
      ∃ k, k * shareLength workers as.length < as.length ∧
        (as.drop (k * shareLength workers as.length)).take (shareLength workers as.length) = s := by
  cases as with
  | nil => simp [shares, sharesOf]
  | cons a as =>
    have hlength : 0 < shareLength workers (a :: as).length := shareLength_pos (by simp) workers
    simp only [shares_eq, List.mem_iff_getElem?, getElem?_sharesOf hlength (Nat.le_refl _),
      Option.ite_none_right_eq_some, Option.some.injEq]

namespace Matcher

variable {α : Type}

/-- The placed rules of a list. -/
def placed (rules : List Rule) : List PlacedRule := rules.zipIdx.map fun p => (p.2, p.1)

/-- The results that there are, each with the place of its rule. -/
def placedResults (result : Rule → Option α) (rules : List PlacedRule) : List (Nat × α) :=
  rules.filterMap fun p => (result p.2).map fun x => (p.1, x)

theorem placedResults_cons (result : Rule → Option α) (r : PlacedRule) (rs : List PlacedRule) :
    placedResults result (r :: rs) =
      ((result r.2).toList.map fun x => (r.1, x)) ++ placedResults result rs := by
  rw [placedResults, List.filterMap_cons]
  cases result r.2 <;> rfl

theorem mem_placed {rules : List Rule} {p : PlacedRule} :
    p ∈ placed rules ↔ rules[p.1]? = some p.2 := by
  rw [placed, List.mem_map]
  constructor
  · rintro ⟨q, hq, rfl⟩
    exact List.mem_zipIdx_iff_getElem?.mp hq
  · intro h
    exact ⟨(p.2, p.1), List.mem_zipIdx_iff_getElem?.mpr h, rfl⟩

theorem exists_mem_placed {rules : List Rule} {P : Rule → Prop} :
    (∃ p ∈ placed rules, P p.2) ↔ ∃ r ∈ rules, P r := by
  constructor
  · rintro ⟨p, hp, h⟩
    exact ⟨p.2, List.mem_of_getElem? (mem_placed.mp hp), h⟩
  · rintro ⟨r, hr, h⟩
    obtain ⟨i, hi⟩ := List.mem_iff_getElem?.mp hr
    exact ⟨(i, r), mem_placed.mpr hi, h⟩

theorem getElem?_placed (rules : List Rule) (i : Nat) :
    (placed rules)[i]? = rules[i]?.map fun r => (i, r) := by
  rw [placed, List.getElem?_map, List.getElem?_zipIdx, Option.map_map]
  simp only [Function.comp_def, Nat.zero_add]

/-- A share of placed rules holds the rules whose places come to its number. -/
theorem mem_share_iff {rules : List Rule} {length : Nat} (hlength : 0 < length) (k : Nat)
    {p : PlacedRule} :
    p ∈ ((placed rules).drop (k * length)).take length ↔
      p ∈ placed rules ∧ p.1 / length = k := by
  rw [mem_placed, Nat.div_eq_iff hlength, List.mem_iff_getElem?]
  simp only [List.getElem?_take, List.getElem?_drop, getElem?_placed,
    Option.ite_none_right_eq_some, Option.map_eq_some_iff]
  constructor
  · rintro ⟨i, hi, r, hr, rfl⟩
    exact ⟨hr, by omega⟩
  · rintro ⟨hr, hp⟩
    obtain ⟨hlow, hhigh⟩ : k * length ≤ p.1 ∧ p.1 < k * length + length := by omega
    refine ⟨p.1 - k * length, by omega, p.2, ?_⟩
    rw [Nat.add_sub_cancel' hlow]
    exact ⟨hr, rfl⟩

theorem mem_placedResults {result : Rule → Option α} {ps : List PlacedRule} {i : Nat} {x : α} :
    (i, x) ∈ placedResults result ps ↔ ∃ r, (i, r) ∈ ps ∧ result r = some x := by
  rw [placedResults, List.mem_filterMap]
  constructor
  · rintro ⟨⟨j, r⟩, hr, h⟩
    obtain ⟨y, hy, h⟩ := Option.map_eq_some_iff.mp h
    obtain ⟨rfl, rfl⟩ := Prod.mk.inj h
    exact ⟨r, hr, hy⟩
  · rintro ⟨r, hr, hx⟩
    exact ⟨(i, r), hr, by rw [hx]; rfl⟩

/-- No fault gets out of the rules. -/
def ends (result : Rule → Outcome (Option α)) (rules : List PlacedRule) : Bool :=
  rules.all fun p => !(result p.2).isFault

theorem ends_cons (result : Rule → Outcome (Option α)) (r : PlacedRule) (rs : List PlacedRule) :
    ends result (r :: rs) = (!(result r.2).isFault && ends result rs) := rfl

theorem ends_iff {result : Rule → Outcome (Option α)} {rules : List PlacedRule} :
    ends result rules = true ↔ ∀ p ∈ rules, result p.2 ≠ .fault := by
  simp only [ends, List.all_eq_true, Bool.not_eq_true', ← Bool.not_eq_true, Outcome.isFault_iff, ne_eq]

/-- A rule is in a share that no fault gets out of, just if no fault gets out of the rules whose places
come to the number of its share. -/
theorem mem_kept_iff {result : Rule → Outcome (Option α)} {workers : Nat} {rules : List Rule}
    (hlength : 0 < shareLength workers rules.length) {p : PlacedRule} :
    p ∈ ((shares workers (placed rules)).filter (ends result)).flatten ↔
      p ∈ placed rules ∧ ∀ q ∈ placed rules,
        q.1 / shareLength workers rules.length = p.1 / shareLength workers rules.length →
          result q.2 ≠ .fault := by
  have hcount : (placed rules).length = rules.length := by simp [placed]
  simp only [List.mem_flatten, List.mem_filter, mem_shares_iff, ends_iff, hcount]
  constructor
  · rintro ⟨_, ⟨⟨k, -, rfl⟩, hends⟩, hp⟩
    obtain ⟨hplaced, rfl⟩ := (mem_share_iff hlength k).mp hp
    exact ⟨hplaced, fun q hq hshare => hends q ((mem_share_iff hlength _).mpr ⟨hq, hshare⟩)⟩
  · rintro ⟨hp, hends⟩
    refine ⟨_, ⟨⟨p.1 / shareLength workers rules.length, ?_, rfl⟩, ?_⟩,
      (mem_share_iff hlength _).mpr ⟨hp, rfl⟩⟩
    · obtain ⟨hplace, -⟩ := List.getElem?_eq_some_iff.mp (mem_placed.mp hp)
      exact Nat.lt_of_le_of_lt (Nat.div_mul_le_self _ _) hplace
    · intro q hq
      obtain ⟨hq, hshare⟩ := (mem_share_iff hlength _).mp hq
      exact hends q hq hshare

/-- What a rule gives, where no fault gets out of it. -/
def given (result : Rule → Outcome (Option α)) (r : Rule) : Option α := (result r).getD none

theorem given_eq_some_iff {result : Rule → Outcome (Option α)} {r : Rule} {x : α} :
    given result r = some x ↔ result r = .value (some x) := by
  rw [given]
  cases result r <;> simp [Outcome.getD]

/-- A way to evaluate rules gives fixed results, whatever a matcher remembers, and changes nothing
but that. -/
def Gives (evaluate : Matcher → Rule → Matcher × Outcome (Option α)) (m : Matcher)
    (result : Rule → Outcome (Option α)) : Prop :=
  ∀ m', m.EqUpToMemory m' → ∀ r, m.EqUpToMemory (evaluate m' r).1 ∧ (evaluate m' r).2 = result r

section

variable {evaluate : Matcher → Rule → Matcher × Outcome (Option α)} {m m' : Matcher}
  {result : Rule → Outcome (Option α)}

/-- Rules evaluated one after the other come to what each comes to alone, if no fault gets out. -/
theorem Gives.evaluateShare (h : Gives evaluate m result) (hm : m.EqUpToMemory m')
    (rules : List PlacedRule) :
    m.EqUpToMemory (evaluateShare evaluate m' rules).1 ∧
      (Matcher.evaluateShare evaluate m' rules).2 =
        if ends result rules then .value (placedResults (given result) rules) else .fault := by
  -- The rules behind `r` meet what is remembered after it, so the induction is over all memories.
  induction rules generalizing m' with
  | nil => exact ⟨hm, rfl⟩
  | cons r rs ih =>
    obtain ⟨hmemory, hresult⟩ := h m' hm r.2
    obtain ⟨hmemory', hresults⟩ := ih hmemory
    rw [Matcher.evaluateShare, ends_cons, placedResults_cons, given, ← hresult]
    rcases hfirst : evaluate m' r.2 with ⟨m₁, x | _⟩
    · rw [hfirst] at hmemory' hresults
      refine ⟨hmemory', ?_⟩
      simp only [hresults]
      cases ends result rs <;> rfl
    · rw [hfirst] at hmemory
      exact ⟨hmemory, rfl⟩

/-- The shares that no fault gets out of come to what their rules come to, and the others to nothing. -/
theorem Gives.evaluateShares (h : Gives evaluate m result) (hm : m.EqUpToMemory m')
    (shares : List (List PlacedRule)) :
    m.EqUpToMemory (evaluateShares evaluate m' shares).1 ∧
      (Matcher.evaluateShares evaluate m' shares).2 =
        placedResults (given result) (shares.filter (ends result)).flatten := by
  induction shares generalizing m' with
  | nil => exact ⟨hm, rfl⟩
  | cons s ss ih =>
    obtain ⟨hmemory, hresult⟩ := h.evaluateShare hm s
    obtain ⟨hmemory', hresults⟩ := ih hmemory
    refine ⟨hmemory', ?_⟩
    simp only [Matcher.evaluateShares, hresult, hresults, List.filter_cons]
    cases ends result s <;> simp [placedResults, Outcome.getD]

/-- Many rules come to the results of the shares that no fault gets out of.  If one does, a single
worker comes to no result. -/
theorem Gives.evaluateAll (h : Gives evaluate m result) (available : Nat) (rules : List Rule) :
    m.EqUpToMemory (evaluateAll evaluate available m rules).1 ∧
      (Matcher.evaluateAll evaluate available m rules).2 =
        if min (m.settings.workerCount available) rules.length ≤ 1 then
          if ends result (placed rules) then .value (placedResults (given result) (placed rules))
          else .fault
        else .value (placedResults (given result)
          ((shares (m.settings.workerCount available) (placed rules)).filter (ends result)).flatten) := by
  rw [Matcher.evaluateAll]
  split
  · exact h.evaluateShare (.refl m) (placed rules)
  · obtain ⟨hmemory, hresults⟩ := h.evaluateShares (.refl m)
      (shares (m.settings.workerCount available) (placed rules))
    exact ⟨hmemory, congrArg Outcome.value hresults⟩

/-- All rules together come to what each comes to alone, whatever the number of workers, if no fault
gets out. -/
theorem Gives.evaluateAll_of_ends (h : Gives evaluate m result) (available : Nat) {rules : List Rule}
    (hends : ∀ r ∈ rules, result r ≠ .fault) :
    (Matcher.evaluateAll evaluate available m rules).2 =
      .value (placedResults (given result) (placed rules)) := by
  have hplaced : ∀ p ∈ placed rules, result p.2 ≠ .fault := fun p hp =>
    hends p.2 (List.mem_of_getElem? (mem_placed.mp hp))
  rw [(h.evaluateAll available rules).2, ends_iff.mpr hplaced, if_pos rfl]
  split
  · rfl
  · rw [List.filter_eq_self.mpr, flatten_shares]
    intro s hs
    refine ends_iff.mpr fun p hp => hplaced p ?_
    rw [← flatten_shares (m.settings.workerCount available) (placed rules)]
    exact List.mem_flatten_of_mem hs hp

/-- A fault gets out of all rules just if one gets out of a rule and there is a single worker. -/
theorem Gives.evaluateAll_eq_fault_iff (h : Gives evaluate m result) (available : Nat)
    (rules : List Rule) :
    (Matcher.evaluateAll evaluate available m rules).2 = .fault ↔
      min (m.settings.workerCount available) rules.length ≤ 1 ∧
        ∃ p ∈ placed rules, result p.2 = .fault := by
  rw [(h.evaluateAll available rules).2]
  split
  · rename_i hworkers
    by_cases hends : ends result (placed rules) = true
    · rw [if_pos hends]
      simpa [hworkers] using ends_iff.mp hends
    · rw [if_neg hends]
      rw [ends_iff] at hends
      push Not at hends
      exact ⟨fun _ => ⟨hworkers, hends⟩, fun _ => rfl⟩
  · rename_i hworkers
    simp [hworkers]

/-- Among several workers a fault that gets out of a rule costs the rules of its share, and no
other. -/
theorem Gives.evaluateAll_of_workers (h : Gives evaluate m result) {available : Nat}
    {rules : List Rule} (hworkers : 1 < min (m.settings.workerCount available) rules.length) :
    ∃ found, (Matcher.evaluateAll evaluate available m rules).2 = .value found ∧
      ∀ i x, (i, x) ∈ found ↔
        (∃ r, rules[i]? = some r ∧ result r = .value (some x)) ∧
          ∀ p ∈ placed rules,
            p.1 / shareLength (m.settings.workerCount available) rules.length =
                i / shareLength (m.settings.workerCount available) rules.length →
              result p.2 ≠ .fault := by
  have hlength : 0 < shareLength (m.settings.workerCount available) rules.length :=
    shareLength_pos (by omega) _
  rw [(h.evaluateAll available rules).2, if_neg (by omega)]
  refine ⟨_, rfl, fun i x => ?_⟩
  simp only [mem_placedResults, mem_kept_iff hlength, mem_placed, given_eq_some_iff]
  constructor
  · rintro ⟨r, ⟨hr, hends⟩, hx⟩
    exact ⟨⟨r, hr, hx⟩, hends⟩
  · rintro ⟨⟨r, hr, hx⟩, hends⟩
    exact ⟨r, ⟨hr, hends⟩, hx⟩

/-- In another order the rules come to the same results. -/
theorem Gives.evaluateShare_perm (h : Gives evaluate m result) {order rules : List PlacedRule}
    (horder : order.Perm rules) (hends : ends result rules = true) :
    ∃ found, (Matcher.evaluateShare evaluate m order).2 = .value found ∧
      found.Perm (placedResults (given result) rules) := by
  have hends' : ends result order = true := by
    rw [ends_iff] at hends ⊢
    exact fun p hp => hends p (horder.mem_iff.mp hp)
  rw [(h.evaluateShare (.refl m) order).2, hends', if_pos rfl]
  exact ⟨_, rfl, horder.filterMap _⟩

end

/-- A way to evaluate rules that lets no fault out. -/
theorem Gives.evaluateEach {evaluate : Matcher → Rule → Matcher × Option α} {m : Matcher}
    {result : Rule → Option α} (h : Gives (always evaluate) m fun r => .value (result r))
    (available : Nat) (rules : List Rule) :
    m.EqUpToMemory (evaluateEach evaluate available m rules).1 ∧
      (Matcher.evaluateEach evaluate available m rules).2 = placedResults result (placed rules) := by
  refine ⟨(h.evaluateAll available rules).1, ?_⟩
  have hends : ∀ r ∈ rules, (Outcome.value (result r)) ≠ .fault := by simp
  have hall := h.evaluateAll_of_ends available hends
  exact congrArg (·.getD []) hall

end Matcher

end RuleMatching
