import RuleMatching.Proofs.Evaluation.CaptureFlag

/-!
The limit of a comparison.  `gather` compares in one walk that carries along what it has found and asks
at each step whether there is room for another difference; it comes to what `compare` gives,
`gather_eq_compare`.  So a limit cuts off what an unlimited comparison finds and changes nothing else,
up to the first fault: `limit_truncates`.
-/

set_option autoImplicit false
set_option relaxedAutoImplicit false

namespace RuleMatching

namespace State

/-! ### A walk with a limit -/

/-- Visits elements in order as long as there is room for another difference. -/
def visitWhileRoom {α : Type} (limit : Nat)
    (visit : α → List Difference → Outcome (List Difference)) :
    List α → List Difference → Outcome (List Difference)
  | [], found => .value found
  | x :: xs, found =>
      if limit ≤ found.length then .value found
      else (visit x found).andThen (visitWhileRoom limit visit xs)

/-- Adds the difference of two sides to what has been found. -/
def note (path : String) (before after : Option State) (found : List Difference) :
    Outcome (List Difference) :=
  (differing path before after).andThen fun d => .value (found ++ [d])

/-- The difference of the entries that two lists of pairs have at one place, if there is one. -/
def entryDifference? (path : String) (x y : Option (String × String)) : Option Difference :=
  if x = y then none
  else
    let key := ((x.or y).map (·.1)).getD ""
    let shown := fun e : String × String => entryText e.1 e.2
    some ⟨childPath path key, x.map shown, y.map shown⟩

/-- Compares two objects, of which the first is seen as `a`. -/
def gatherObjects (limit : Nat) (path : String) (before after : State) (a b : ObjectView)
    (visit : String → Option State → State → List Difference → Outcome (List Difference))
    (found : List Difference) : Outcome (List Difference) :=
  a.kind.andThen fun k => b.kind.andThen fun l =>
    if k = l then
      a.names.andThen fun ns => b.names.andThen fun ms =>
        match (NameSet.ofList (ns ++ ms)).names with
        | [] => a.text.andThen fun s => b.text.andThen fun t =>
            if s = t then .value found else note path (some before) (some after) found
        | names => visitWhileRoom limit (fun n found =>
            (a.field? n).andThen fun x => (b.field? n).andThen fun y =>
              visit n x (y.getD null) found) names found
    else note path (some before) (some after) found

/-- Compares null with a state. -/
def gatherNull (limit : Nat) (path : String) (after : State) (found : List Difference) :
    Outcome (List Difference) :=
  if limit ≤ found.length then .value found
  else if after.isNull then .value found
  else note path (some null) (some after) found

/-- Adds the differences between two states to what has been found, until there are as many as the
limit. -/
def gather (limit : Nat) (path : String) (before after : State) (found : List Difference) :
    Outcome (List Difference) :=
  if limit ≤ found.length then .value found
  else
    match before, after with
    | list m a, list n b =>
        visitWhileRoom limit (fun i found =>
          let below := childPath path (Numeral.text i)
          if i < m then
            if i < n then (a i).gather limit below (b i) found
            else note below (some (a i)) none found
          else note below none (some (b i)) found) (List.range (max m n)) found
    | map ks a, map ls b =>
        visitWhileRoom limit (fun k found =>
          let below := childPath path k
          if ks.contains k then
            if ls.contains k then (a k).gather limit below (b k) found
            else note below (some (a k)) none found
          else note below none (some (b k)) found) (ks.union ls).names found
    | pairs xs, pairs ys =>
        visitWhileRoom limit (fun i found =>
          .value (found ++ (entryDifference? path xs[i]? ys[i]?).toList))
          (List.range (max xs.length ys.length)) found
    | record k ns f, after =>
        match after.object? with
        | some b =>
            gatherObjects limit path (record k ns f) after
              ⟨.value k, .value ns.names, (record k ns f).render,
                fun n => .value (recordField? ns f n)⟩ b
              (fun n x y =>
                if x.isSome then (f n).gather limit (childPath path n) y
                else gatherNull limit (childPath path n) y) found
        | none => note path (some (record k ns f)) (some after) found
    | foreign k ns t r f, after =>
        match after.object? with
        | some b =>
            gatherObjects limit path (foreign k ns t r f) after ⟨k, ns, t, foreignField? r f⟩ b
              (fun n x y =>
                if x.isSome then (f n).gather limit (childPath path n) y
                else gatherNull limit (childPath path n) y) found
        | none => note path (some (foreign k ns t r f)) (some after) found
    | before, after =>
        if sameScalar before after then .value found
        else note path (some before) (some after) found

/-! ### The events that there is room for -/

/-- Adds the first differences among events to what has been found, until there are as many as the
limit. -/
def addFirst (limit : Nat) (es : List (Outcome Difference)) (found : List Difference) :
    Outcome (List Difference) :=
  (firstDifferences (limit - found.length) es).andThen fun ds => .value (found ++ ds)

variable {limit : Nat} {found : List Difference} {e : Outcome Difference}
  {es es' : List (Outcome Difference)} {s t : State} {path : String}

theorem addFirst_nil : addFirst limit [] found = .value found := by
  rw [addFirst]
  cases limit - found.length <;> simp [firstDifferences]

theorem addFirst_of_full (h : limit ≤ found.length) (es : List (Outcome Difference)) :
    addFirst limit es found = .value found := by
  rw [addFirst, Nat.sub_eq_zero_of_le h, firstDifferences, Outcome.andThen_value, List.append_nil]

theorem addFirst_cons (hroom : ¬limit ≤ found.length) :
    addFirst limit (e :: es) found = e.andThen fun d => addFirst limit es (found ++ [d]) := by
  obtain ⟨room, hlimit⟩ : ∃ room, limit - found.length = room + 1 :=
    Nat.exists_eq_add_one.mpr (by omega)
  cases e with
  | fault => rw [addFirst, hlimit, firstDifferences, Outcome.andThen_fault, Outcome.andThen_fault,
      Outcome.andThen_fault]
  | value d =>
    have hrest : limit - (found ++ [d]).length = room := by
      rw [List.length_append, List.length_singleton]
      omega
    rw [addFirst, hlimit, firstDifferences, Outcome.andThen_value, Outcome.andThen_value, addFirst,
      hrest]
    cases firstDifferences room es <;> simp

/-- The events of a list are added before those behind it. -/
theorem addFirst_append : addFirst limit (es ++ es') found =
    (addFirst limit es found).andThen (addFirst limit es') := by
  induction es generalizing found with
  | nil => rw [List.nil_append, addFirst_nil, Outcome.andThen_value]
  | cons e es ih =>
    by_cases hfull : limit ≤ found.length
    · rw [addFirst_of_full hfull, addFirst_of_full hfull, Outcome.andThen_value,
        addFirst_of_full hfull]
    · rw [List.cons_append, addFirst_cons hfull, addFirst_cons hfull]
      cases e with
      | fault => rfl
      | value d => exact ih

theorem addFirst_fault (hroom : ¬limit ≤ found.length) : addFirst limit [.fault] found = .fault :=
  addFirst_cons hroom

theorem note_eq (hroom : ¬limit ≤ found.length) (path : String) (before after : Option State) :
    note path before after found = addFirst limit [differing path before after] found := by
  simp only [addFirst_cons hroom, addFirst_nil]
  rfl

/-- Visiting elements as long as there is room adds their events, if visiting one with room left adds
its own. -/
theorem visitWhileRoom_eq {α : Type} {visit : α → List Difference → Outcome (List Difference)}
    {f : α → List (Outcome Difference)} {xs : List α}
    (hvisit : ∀ x ∈ xs, ∀ found, ¬limit ≤ found.length → visit x found = addFirst limit (f x) found) :
    visitWhileRoom limit visit xs found = addFirst limit (xs.flatMap f) found := by
  induction xs generalizing found with
  | nil => exact addFirst_nil.symm
  | cons x xs ih =>
    obtain ⟨hx, hxs⟩ := List.forall_mem_cons.mp hvisit
    rw [visitWhileRoom]
    by_cases hfull : limit ≤ found.length
    · rw [if_pos hfull, addFirst_of_full hfull]
    · rw [if_neg hfull, hx found hfull, List.flatMap_cons, addFirst_append]
      congr 1
      funext found
      exact ih hxs

/-- What stands on one side or on both at a place is noted or walked further. -/
theorem sides_eq_addFirst {c d : Prop} [Decidable c] [Decidable d] (hroom : ¬limit ≤ found.length)
    {walked : Outcome (List Difference)} (hboth : walked = addFirst limit es found) :
    (if c then if d then walked else note path (some s) none found else note path none (some t) found) =
      addFirst limit (if c then if d then es else [differing path (some s) none]
        else [differing path none (some t)]) found := by
  by_cases hc : c
  · by_cases hd : d
    · simpa only [hc, hd, if_true] using hboth
    · simpa only [hc, hd, if_true, if_false] using note_eq hroom path (some s) none
  · simpa only [hc, if_false] using note_eq hroom path none (some t)

theorem scalars_eq_addFirst (hroom : ¬limit ≤ found.length) :
    (if sameScalar s t then .value found else note path (some s) (some t) found) =
      addFirst limit (if sameScalar s t then [] else [differing path (some s) (some t)]) found := by
  by_cases hsame : sameScalar s t = true
  · rw [if_pos hsame, if_pos hsame, addFirst_nil]
  · rw [if_neg hsame, if_neg hsame, note_eq hroom]

/-- The events of the entries that two lists of pairs have at one place. -/
private def entryEvents (path : String) (x y : Option (String × String)) :
    List (Outcome Difference) :=
  (entryDifference? path x y).toList.map .value

private theorem entry_eq_addFirst (hroom : ¬limit ≤ found.length) (x y : Option (String × String)) :
    .value (found ++ (entryDifference? path x y).toList) =
      addFirst limit (entryEvents path x y) found := by
  rw [entryEvents]
  cases entryDifference? path x y with
  | none => simp [addFirst_nil]
  | some d => simp [addFirst_cons hroom, addFirst_nil]

/-- Lists of pairs are compared place by place. -/
private theorem pairEvents_eq_flatMap (path : String) (xs ys : List (String × String)) :
    pairEvents path xs ys =
      (List.range (max xs.length ys.length)).flatMap fun i => entryEvents path xs[i]? ys[i]? := by
  have hcons : ∀ n (f : Nat → List (Outcome Difference)),
      (List.range (n + 1)).flatMap f = f 0 ++ (List.range n).flatMap fun i => f (i + 1) := by
    intro n f
    rw [List.range_succ_eq_map, List.flatMap_cons, List.flatMap_map]
  induction xs generalizing ys with
  | nil =>
    induction ys with
    | nil => simp [pairEvents]
    | cons y ys ih =>
      rw [pairEvents, ih, List.length_cons, List.length_nil, Nat.zero_max, Nat.zero_max, hcons]
      rfl
  | cons x xs ih =>
    cases ys with
    | nil =>
      rw [pairEvents, ih, List.length_cons, List.length_nil, Nat.max_zero, Nat.max_zero, hcons]
      rfl
    | cons y ys =>
      rw [pairEvents, ih, List.length_cons, List.length_cons, Nat.add_max_add_right, hcons]
      by_cases hxy : x = y
      · simp [hxy, entryEvents, entryDifference?]
      · simp [hxy, entryEvents, entryDifference?]

theorem gatherNull_eq (hroom : ¬limit ≤ found.length) (path : String) (t : State) :
    gatherNull limit path t found = addFirst limit (nullEvents path t) found := by
  rw [gatherNull, nullEvents, if_neg hroom]
  split
  · exact addFirst_nil.symm
  · exact note_eq hroom ..

/-- Two objects are compared by their events, if their fields are. -/
theorem gatherObjects_eq {a b : ObjectView}
    {visit : String → Option State → State → List Difference → Outcome (List Difference)}
    {visit' : String → Option State → State → List (Outcome Difference)}
    (hvisit : ∀ n x y found, a.field? n = .value x → ¬limit ≤ found.length →
      visit n x y found = addFirst limit (visit' n x y) found)
    (hroom : ¬limit ≤ found.length) :
    gatherObjects limit path s t a b visit found =
      addFirst limit (objectEvents path s t a b visit') found := by
  have hfault : .fault = addFirst limit [.fault] found := (addFirst_fault hroom).symm
  rw [gatherObjects, objectEvents]
  cases a.kind with
  | fault => exact hfault
  | value k =>
  cases b.kind with
  | fault => exact hfault
  | value l =>
  by_cases hkind : k = l
  · simp only [Outcome.andThen_value, if_pos hkind]
    cases a.names with
    | fault => exact hfault
    | value ns =>
    cases b.names with
    | fault => exact hfault
    | value ms =>
    simp only [Outcome.andThen_value]
    cases (NameSet.ofList (ns ++ ms)).names with
    | nil =>
      cases a.text with
      | fault => exact hfault
      | value shown =>
      cases b.text with
      | fault => exact hfault
      | value shown' =>
      simp only [Outcome.andThen_value]
      split
      · exact addFirst_nil.symm
      · exact note_eq hroom ..
    | cons n names =>
      refine visitWhileRoom_eq fun n _ found hroom => ?_
      cases hx : a.field? n with
      | fault => exact (addFirst_fault hroom).symm
      | value x =>
      cases b.field? n with
      | fault => exact (addFirst_fault hroom).symm
      | value y => exact hvisit n x (y.getD null) found hx hroom
  · simp only [Outcome.andThen_value, if_neg hkind]
    exact note_eq hroom ..

/-- With room left, a walk that carries along what it has found adds the first of the events. -/
theorem gather_eq_of_room (hroom : ¬limit ≤ found.length) :
    s.gather limit path t found = addFirst limit (s.events path t) found := by
  -- What lies below a place is walked with a longer path, and with what has been found before it.
  induction s generalizing t path found with
  | list m a ih =>
    cases t with
    | list n b =>
      simp only [gather, if_neg hroom]
      exact visitWhileRoom_eq fun i _ found hroom =>
        sides_eq_addFirst (c := i < m) (d := i < n) hroom (ih i hroom)
    | _ =>
      simp only [gather, if_neg hroom]
      exact scalars_eq_addFirst hroom
  | map ks a ih =>
    cases t with
    | map ls b =>
      simp only [gather, if_neg hroom]
      exact visitWhileRoom_eq fun k _ found hroom =>
        sides_eq_addFirst (c := ks.contains k) (d := ls.contains k) hroom (ih k hroom)
    | _ =>
      simp only [gather, if_neg hroom]
      exact scalars_eq_addFirst hroom
  | pairs xs =>
    cases t with
    | pairs ys =>
      simp only [gather, if_neg hroom, events, pairEvents_eq_flatMap]
      exact visitWhileRoom_eq fun i _ found hroom => entry_eq_addFirst hroom ..
    | _ =>
      simp only [gather, if_neg hroom]
      exact scalars_eq_addFirst hroom
  | record k ns f ih =>
    simp only [gather, if_neg hroom, events]
    cases t.object? with
    | none => exact note_eq hroom ..
    | some b =>
      refine gatherObjects_eq (fun n x y found _ hroom => ?_) hroom
      cases x with
      | none => exact gatherNull_eq hroom ..
      | some x => exact ih n hroom
  | foreign k ns shown r f ih =>
    simp only [gather, if_neg hroom, events]
    cases t.object? with
    | none => exact note_eq hroom ..
    | some b =>
      refine gatherObjects_eq (fun n x y found _ hroom => ?_) hroom
      cases x with
      | none => exact gatherNull_eq hroom ..
      | some x => exact ih n hroom
  | _ =>
    simp only [gather, if_neg hroom]
    exact scalars_eq_addFirst hroom

/-- A walk that carries along what it has found finds what a comparison finds. -/
theorem gather_eq_compare (s t : State) (limit : Nat) : s.gather limit "" t [] = compare s t limit := by
  have hcompare : addFirst limit (s.events "" t) [] = compare s t limit := by
    rw [addFirst, compare, List.length_nil, Nat.sub_zero]
    cases firstDifferences limit (s.events "" t) <;> rfl
  rw [← hcompare]
  by_cases hfull : limit ≤ ([] : List Difference).length
  · rw [gather.eq_def, if_pos hfull, addFirst_of_full hfull]
  · exact gather_eq_of_room hfull

/-! ### What a limit cuts off -/

theorem firstDifferences_of_take {ds : List Difference} (h : es.take limit = ds.map .value) :
    firstDifferences limit es = .value ds := by
  induction ds generalizing limit es with
  | nil =>
    rw [List.map_nil, List.take_eq_nil_iff] at h
    rcases h with rfl | rfl
    · rfl
    · cases limit <;> rfl
  | cons d ds ih =>
    cases limit with
    | zero => simp at h
    | succ limit =>
    cases es with
    | nil => simp at h
    | cons e es =>
      rw [List.take_succ_cons, List.map_cons] at h
      obtain ⟨rfl, hrest⟩ := List.cons.inj h
      rw [firstDifferences, Outcome.andThen_value, ih hrest, Outcome.andThen_value]

/-- What is found with a limit is found first with any greater one. -/
theorem firstDifferences_eq_take {limit' : Nat} (hle : limit ≤ limit') {ds : List Difference}
    (h : firstDifferences limit' es = .value ds) :
    firstDifferences limit es = .value (ds.take limit) := by
  refine firstDifferences_of_take ?_
  rw [List.map_take, ← take_eq_of_firstDifferences h, List.take_take, Nat.min_eq_left hle]

/-- A fault ends what differences come before it. -/
theorem firstDifferences_before_fault (ds : List Difference) (es : List (Outcome Difference))
    (limit : Nat) : firstDifferences limit (ds.map .value ++ .fault :: es) =
      if limit ≤ ds.length then .value (ds.take limit) else .fault := by
  split
  · rename_i hle
    refine firstDifferences_of_take ?_
    rw [List.take_append_of_le_length (by simpa using hle), List.map_take]
  · rename_i hgt
    induction ds generalizing limit with
    | nil =>
      rw [List.length_nil] at hgt
      obtain ⟨n, rfl⟩ := Nat.exists_eq_add_one.mpr (by omega : 0 < limit)
      rfl
    | cons d ds ih =>
      rw [List.length_cons] at hgt
      obtain ⟨n, rfl⟩ := Nat.exists_eq_add_one.mpr (by omega : 0 < limit)
      rw [List.map_cons, List.cons_append, firstDifferences, Outcome.andThen_value,
        ih n (by omega), Outcome.andThen_fault]

/-- A comparison that faults finds some differences first, fewer than it was asked for. -/
theorem exists_before_fault (h : firstDifferences limit es = .fault) :
    ∃ (ds : List Difference) (rest : List (Outcome Difference)),
      es = ds.map .value ++ .fault :: rest ∧ ds.length < limit := by
  induction es generalizing limit with
  | nil => cases limit <;> simp [firstDifferences] at h
  | cons e es ih =>
    cases limit with
    | zero => simp [firstDifferences] at h
    | succ limit =>
    cases e with
    | fault => exact ⟨[], es, rfl, Nat.zero_lt_succ limit⟩
    | value d =>
      rw [firstDifferences, Outcome.andThen_value] at h
      cases hrest : firstDifferences limit es with
      | value ds => simp [hrest] at h
      | fault =>
        obtain ⟨ds, rest, rfl, hlength⟩ := ih hrest
        exact ⟨d :: ds, rest, rfl, Nat.succ_lt_succ hlength⟩

theorem compare_of_unlimited_eq_value {ds : List Difference}
    (h : compare s t unlimited = .value ds) (hle : limit ≤ unlimited) :
    compare s t limit = .value (ds.take limit) :=
  firstDifferences_eq_take hle h

theorem exists_compare_of_unlimited_eq_fault (h : compare s t unlimited = .fault) :
    ∃ ds : List Difference, ds.length < unlimited ∧ ∀ limit, compare s t limit =
      if limit ≤ ds.length then .value (ds.take limit) else .fault := by
  obtain ⟨ds, rest, hevents, hlength⟩ := exists_before_fault h
  refine ⟨ds, hlength, fun limit => ?_⟩
  rw [compare, hevents, firstDifferences_before_fault]

/-- A comparison is one walk with a limit.  If an unlimited comparison has a result, then with any limit
the first differences of it are found.  If it faults, then there are differences in front of the fault,
of which the first are found with a limit up to their number, and with any greater limit it faults too.
It does not fault on faultless states.  Whether any difference is found does not depend on the limit,
if it is not zero and there is no fault.  A clause that asks whether its states differ applies with its
capture flag set just if it does without, unless a fault is met behind the first difference. -/
theorem limit_truncates (s t : State) :
    (∀ limit, s.gather limit "" t [] = compare s t limit) ∧
    (∀ ds, compare s t unlimited = .value ds →
      ∀ limit, limit ≤ unlimited → compare s t limit = .value (ds.take limit)) ∧
    (compare s t unlimited = .fault → ∃ ds : List Difference, ds.length < unlimited ∧
      ∀ limit, compare s t limit =
        if limit ≤ ds.length then .value (ds.take limit) else .fault) ∧
    (s.Faultless → t.Faultless → ∃ ds, compare s t unlimited = .value ds) ∧
    (∀ limit limit' ds ds', 0 < limit → 0 < limit' → compare s t limit = .value ds →
      compare s t limit' = .value ds' → ds.isEmpty = ds'.isEmpty) ∧
    ∀ (m : Matcher) (c : Clause) (state1 state2 : Option State), c.operation = .wasModified →
      ¬m.context.FaultsBehind c state1 state2 →
      m.applies (c.withCapture true) state1 state2 =
        m.applies (c.withCapture false) state1 state2 := by
  refine ⟨gather_eq_compare s t, ?_, exists_compare_of_unlimited_eq_fault, ?_, ?_, ?_⟩
  · intro ds h limit hle
    exact compare_of_unlimited_eq_value h hle
  · intro hs ht
    exact exists_firstDifferences (allDifferences_events hs ht "") unlimited
  · intro limit limit' ds ds' hlimit hlimit' h h'
    exact @isEmpty_differencesBetween_eq (some s) (some t) limit limit' hlimit hlimit' ds ds' h h'
  · intro m c state1 state2 hmodified hnofault
    have hbuiltIn : c.operation ≠ .custom := by simp [hmodified]
    rw [Matcher.applies_eq, Matcher.applies_eq,
      Context.applies_withCapture hbuiltIn hnofault, Context.applies_withCapture hbuiltIn hnofault]

/-- A map with a number in front of an object whose kind cannot be told. -/
private def keyBeforeFault (n : Int64) : State :=
  .ofEntries [("a", .int n),
    ("b", .foreign .fault (.value []) (.value "Faulty") (fun _ => .absent) fun _ => .null)]

/-- Two maps differ in front of a fault.  One difference is found if just one is asked for, a comparison
without a limit faults, and a clause that captures does not apply to them. -/
theorem compare_unlimited_ne_of_fault :
    let s := keyBeforeFault 1
    let t := keyBeforeFault 2
    let m := Matcher.withSettings .default ⟨0, 0, by decide⟩
    let c := Clause.ofOperation .wasModified
    compare s t 1 = .value [⟨"a", some "1", some "2"⟩] ∧ compare s t unlimited = .fault ∧
      m.applies (c.withCapture false) (some s) (some t) = true ∧
      m.applies (c.withCapture true) (some s) (some t) = false := by
  decide +kernel

/-- Of three differences a comparison with a limit of two finds the first two.  In front of a fault
there is one. -/
theorem limit_truncates_of_three :
    let s := ofItems [.int 1, .int 2, .int 3]
    let t := ofItems [.int 0, .int 0, .int 0]
    let m := Matcher.withSettings .default ⟨0, 0, by decide⟩
    let c := Clause.ofOperation .wasModified
    s.Faultless ∧ t.Faultless ∧
      compare s t 2 = .value [⟨"0", some "1", some "0"⟩, ⟨"1", some "2", some "0"⟩] ∧
      m.applies (c.withCapture true) (some s) (some t) =
        m.applies (c.withCapture false) (some s) (some t) ∧
      ∃ ds : List Difference, ds.length = 1 ∧ ∀ limit,
        compare (keyBeforeFault 1) (keyBeforeFault 2) limit =
          if limit ≤ ds.length then .value (ds.take limit) else .fault := by
  intro s t m c
  have hfaultless : ∀ items : List Int64, (ofItems (items.map .int)).Faultless := by
    intro items i _
    change ((items.map State.int).getD i null).Faultless
    rw [List.getD_eq_getElem?_getD, List.getElem?_map]
    cases items[i]? <;> trivial
  have hs : s.Faultless := hfaultless [1, 2, 3]
  have ht : t.Faultless := hfaultless [0, 0, 0]
  obtain ⟨-, htake, -, hreturns, -, hagree⟩ := limit_truncates s t
  obtain ⟨-, -, hfault, -⟩ := limit_truncates (keyBeforeFault 1) (keyBeforeFault 2)
  obtain ⟨ds, hds⟩ := hreturns hs ht
  refine ⟨hs, ht, ?_, ?_, ?_⟩
  · rw [htake ds hds 2 (by decide)]
    have hall : compare s t unlimited = .value [⟨"0", some "1", some "0"⟩,
        ⟨"1", some "2", some "0"⟩, ⟨"2", some "3", some "0"⟩] := by
      decide +kernel
    obtain rfl := Outcome.value.inj (hds.symm.trans hall)
    rfl
  · refine hagree m c (some s) (some t) rfl ?_
    rintro ⟨-, r, -, hresolve, -, hall⟩
    obtain rfl := Outcome.value.inj hresolve
    exact absurd (hds.symm.trans hall) (by simp)
  · obtain ⟨ds, -, hcut⟩ := hfault (by decide +kernel)
    refine ⟨ds, ?_, hcut⟩
    have hone := hcut 1
    have htwo := hcut 2
    rw [show compare (keyBeforeFault 1) (keyBeforeFault 2) 1 =
      .value [⟨"a", some "1", some "2"⟩] by decide +kernel] at hone
    rw [show compare (keyBeforeFault 1) (keyBeforeFault 2) 2 = .fault by decide +kernel] at htwo
    split at hone
    · split at htwo
      · simp at htwo
      · omega
    · simp at hone

end State

end RuleMatching
