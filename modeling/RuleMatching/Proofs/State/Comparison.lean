import Mathlib.Data.List.Basic
import RuleMatching.Proofs.State.Faultless
import RuleMatching.Proofs.State.Place

/-!
Comparing states that are built from null, scalars, lists, maps and records.  Every difference is at
a place that can be followed in both states: what is found there is what the difference shows, and no
two differences have the same path.  `located_events` carries the place along as two states are
walked together, and `compare_agrees_with_follow` says it of a comparison with any limit.
-/

set_option autoImplicit false
set_option relaxedAutoImplicit false

namespace RuleMatching

namespace State

/-- Every place in a state has a path that leads to it: there are no pairs and no foreign objects,
keys and fields are names, and no list is longer than there are indices. -/
def Addressable : State → Prop
  | list size item => size ≤ Numeral.wordBound ∧ ∀ i, i < size → (item i).Addressable
  | map keys entry => ∀ k, k ∈ keys → IsName k ∧ (entry k).Addressable
  | record _ names field => ∀ n, n ∈ names → IsName n ∧ (field n).Addressable
  | pairs _ => False
  | foreign _ _ _ _ _ => False
  | _ => True

variable {s t : State}

theorem Addressable.faultless (hs : s.Addressable) : s.Faultless := by
  induction s with
  | list size item ih => exact fun i hi => ih i (hs.2 i hi)
  | map keys entry ih => exact fun k hk => ih k (hs k hk).2
  | record kind names field ih => exact fun n hn => ih n (hs n hn).2
  | foreign kind names text reading field ih => exact hs.elim
  | _ => trivial

/-! ### What is shown at a place -/

/-- What a state shows at a path: the text of what is found there, if anything is. -/
def renderAt (s : State) (path : String) : Outcome (Option String) :=
  (s.follow [] path).andThen fun
    | none => .value none
    | some t => t.render.andThen fun text => .value (some text)

/-- What one side of a difference would show at a place below it. -/
def shownAt (s : Option State) (place : List String) : Outcome (Option String) :=
  match s with
  | none => .value none
  | some s => (walk [] place s).andThen side

theorem renderAt_pathTo {place : List String} (h : ∀ n ∈ place, IsName n) (s : State) :
    s.renderAt (pathTo place) = shownAt (some s) place := by
  rw [renderAt, follow, segments_pathTo h, shownAt]
  cases walk [] place s with
  | fault => rfl
  | value found =>
    cases found with
    | none => rfl
    | some t => cases hnull : t.isNull <;> simp [side, Option.filter, hnull]

theorem shownAt_nil (s : Option State) : shownAt s [] = side s := by
  cases s <;> rfl

/-- Below a segment is shown what is below the state found under it. -/
theorem shownAt_cons {name : String} {found : Option State} (h : s.step [] name = .value found)
    (place : List String) : shownAt (some s) (name :: place) = shownAt found place := by
  rw [shownAt, walk, h, Outcome.andThen_value]
  cases found <;> rfl

/-- Null shows nothing, like a state that is missing. -/
theorem shownAt_getD_null (s : Option State) : shownAt (some (s.getD null)) = shownAt s := by
  cases s with
  | some s => rfl
  | none =>
    funext place
    cases place <;> rfl

theorem step_list {size : Nat} {item : Nat → State} {i : Nat} (hi : i < Numeral.wordBound) :
    (list size item).step [] (Numeral.text i) =
      .value (if i < size then some (item i) else none) := by
  rw [step, Numeral.index?_text hi]
  by_cases h : i < size
  · simp [Option.filter, h]
  · simp [Option.filter, h]

theorem step_record (kind : String) (names : NameSet) (field : String → State) (name : String) :
    (record kind names field).step [] name = .value (recordField? names field name) := by
  rw [step]
  cases recordField? names field name <;> rfl

/-! ### Differences at places -/

/-- Differences at places below one: each shows what both sides show at its place, and no two have
the same path. -/
structure Located (before after : List String → Outcome (Option String)) (above : List String)
    (es : List (Outcome Difference)) : Prop where
  shows : ∀ e ∈ es, ∃ below d, (∀ n ∈ below, IsName n) ∧ e = .value d ∧
    d.path = pathTo (above ++ below) ∧ before below = .value d.before ∧ after below = .value d.after
  distinct : es.Pairwise fun e e' =>
    ∀ d d', e = .value d → e' = .value d' → d.path ≠ d'.path

variable {above : List String}

theorem located_nil (before after : List String → Outcome (Option String)) (above : List String) :
    Located before after above [] := ⟨by simp, List.Pairwise.nil⟩

/-- Two sides that differ as a whole give a difference at their own place. -/
theorem located_differing {before after : Option State} (hbefore : ∀ s ∈ before, s.Faultless)
    (hafter : ∀ s ∈ after, s.Faultless) (above : List String) :
    Located (shownAt before) (shownAt after) above [differing (pathTo above) before after] := by
  obtain ⟨d, hd⟩ := exists_differing hbefore hafter (pathTo above)
  obtain ⟨b, hb, hd'⟩ := Outcome.andThen_eq_value_iff.mp hd
  obtain ⟨a, ha, heq⟩ := Outcome.andThen_eq_value_iff.mp hd'
  obtain rfl := Outcome.value.inj heq
  refine ⟨?_, List.pairwise_singleton _ _⟩
  intro e he
  obtain rfl := List.mem_singleton.mp he
  refine ⟨[], _, by simp, hd, by rw [List.append_nil], ?_, ?_⟩
  · rw [shownAt_nil, hb]
  · rw [shownAt_nil, ha]

/-- What is located below each of several segments is located below the place that they lead on
from. -/
theorem located_flatMap {α : Type} (name : α → String) {keys : List α}
    {f : α → List (Outcome Difference)} {before after : List String → Outcome (Option String)}
    {a b : α → Option State} (habove : ∀ n ∈ above, IsName n)
    (hname : ∀ k ∈ keys, IsName (name k)) (hdistinct : keys.Pairwise fun k l => name k ≠ name l)
    (hbefore : ∀ k ∈ keys, ∀ place, before (name k :: place) = shownAt (a k) place)
    (hafter : ∀ k ∈ keys, ∀ place, after (name k :: place) = shownAt (b k) place)
    (h : ∀ k ∈ keys, Located (shownAt (a k)) (shownAt (b k)) (above ++ [name k]) (f k)) :
    Located before after above (keys.flatMap f) := by
  have hshows : ∀ k ∈ keys, ∀ e ∈ f k, ∃ below d, (∀ n ∈ name k :: below, IsName n) ∧
      e = .value d ∧ d.path = pathTo (above ++ name k :: below) ∧
      before (name k :: below) = .value d.before ∧ after (name k :: below) = .value d.after := by
    intro k hk e he
    obtain ⟨below, d, hbelow, hed, hpath, hb, ha⟩ := (h k hk).shows e he
    rw [List.append_assoc, List.singleton_append] at hpath
    refine ⟨below, d, List.forall_mem_cons.mpr ⟨hname k hk, hbelow⟩, hed, hpath, ?_, ?_⟩
    · rw [hbefore k hk, hb]
    · rw [hafter k hk, ha]
  refine ⟨?_, List.pairwise_flatMap.mpr ⟨fun k hk => (h k hk).distinct, ?_⟩⟩
  · intro e he
    obtain ⟨k, hk, he⟩ := List.mem_flatMap.mp he
    obtain ⟨below, hbelow⟩ := hshows k hk e he
    exact ⟨name k :: below, hbelow⟩
  · refine hdistinct.imp_of_mem ?_
    intro k l hk hl hne e he e' he' d d' hed hed' hpaths
    obtain ⟨below, d₁, hnames, hed₁, hpath, -⟩ := hshows k hk e he
    obtain ⟨below', d₂, hnames', hed₂, hpath', -⟩ := hshows l hl e' he'
    obtain rfl := Outcome.value.inj (hed.symm.trans hed₁)
    obtain rfl := Outcome.value.inj (hed'.symm.trans hed₂)
    rw [hpath, hpath'] at hpaths
    have hplaces := pathTo_injective (List.forall_mem_append.mpr ⟨habove, hnames⟩)
      (List.forall_mem_append.mpr ⟨habove, hnames'⟩) hpaths
    exact hne (List.cons.inj (List.append_cancel_left hplaces)).1

/-- Two sides of which at least one is there differ as a whole, unless both are there. -/
theorem located_sides {c d : Prop} [Decidable c] [Decidable d] {es : List (Outcome Difference)}
    (hone : c ∨ d) (hs : c → s.Faultless) (ht : d → t.Faultless)
    (hboth : c → d → Located (shownAt (some s)) (shownAt (some t)) above es) :
    Located (shownAt (if c then some s else none)) (shownAt (if d then some t else none)) above
      (if c then if d then es else [differing (pathTo above) (some s) none]
        else [differing (pathTo above) none (some t)]) := by
  by_cases hc : c
  · by_cases hd : d
    · simpa only [hc, hd, if_true] using hboth hc hd
    · simp only [hc, hd, if_true, if_false]
      exact located_differing (by simpa using hs hc) (by simp) above
  · have hd : d := hone.resolve_left hc
    simp only [hc, hd, if_true, if_false]
    exact located_differing (by simp) (by simpa using ht hd) above

theorem located_scalars (hs : s.Faultless) (ht : t.Faultless) (above : List String) :
    Located (shownAt (some s)) (shownAt (some t)) above
      (if sameScalar s t then [] else [differing (pathTo above) (some s) (some t)]) := by
  split
  · exact located_nil _ _ above
  · exact located_differing (by simpa using hs) (by simpa using ht) above

/-! ### Two states walked together -/

theorem events_null (path : String) (t : State) : null.events path t = nullEvents path t := by
  cases t <;> rfl

/-- Objects are walked in the same way if visits to the fields that the first has do the same. -/
theorem objectEvents_congr {path : String} {a b : ObjectView}
    {visit visit' : String → Option State → State → List (Outcome Difference)}
    (h : ∀ n x y, a.field? n = .value x → visit n x y = visit' n x y) :
    objectEvents path s t a b visit = objectEvents path s t a b visit' := by
  have hfields : ∀ names, fieldEvents a.field? b.field? visit names =
      fieldEvents a.field? b.field? visit' names := by
    intro names
    rw [fieldEvents, fieldEvents]
    refine List.flatMap_congr fun n _ => ?_
    cases hx : a.field? n with
    | fault => rfl
    | value x =>
      cases b.field? n with
      | fault => rfl
      | value y => exact h n x _ hx
  simp only [objectEvents, hfields]

/-- Two objects are walked field by field, and a field that one of them does not have as null. -/
theorem events_of_object? {a b : ObjectView} (path : String) (ha : s.object? = some a)
    (hb : t.object? = some b) :
    s.events path t = objectEvents path s t a b fun n x y =>
      (x.getD null).events (childPath path n) y := by
  have hvisit : ∀ (f : String → State) n (x : Option State) (y : State), (∀ v ∈ x, v = f n) →
      (if x.isSome then (f n).events (childPath path n) y else nullEvents (childPath path n) y) =
        (x.getD null).events (childPath path n) y := by
    intro f n x y hx
    cases x with
    | none => exact (events_null _ y).symm
    | some v =>
      obtain rfl := hx v rfl
      rfl
  cases s with
  | record k ns f =>
    obtain rfl := Option.some.inj ha
    simp only [events, hb]
    refine objectEvents_congr fun n x y hx => hvisit f n x y fun v hv => ?_
    obtain rfl := Outcome.value.inj hx
    exact (mem_recordField?_iff.mp hv).2
  | foreign k ns shown r f =>
    obtain rfl := Option.some.inj ha
    simp only [events, hb]
    exact objectEvents_congr fun n x y hx => hvisit f n x y (eq_of_foreignField? hx)
  | _ => simp [object?] at ha

/-- Two records of one kind are walked field by field, and a field that only one of them has is null
in the other. -/
theorem events_record (path k l : String) (ns ms : NameSet) (f g : String → State) :
    (record k ns f).events path (record l ms g) =
      if k = l then (ns.union ms).names.flatMap fun n =>
        ((recordField? ns f n).getD null).events (childPath path n) ((recordField? ms g n).getD null)
      else [differing path (some (record k ns f)) (some (record l ms g))] := by
  rw [events_of_object? path rfl rfl]
  simp only [objectEvents, fieldEvents]
  refine ite_congr rfl ?_ fun _ => rfl
  intro hkind
  rw [NameSet.union]
  cases hnames : (NameSet.ofList (ns.names ++ ms.names)).names with
  | nil =>
    -- Records without fields have the same text if they are of one kind.
    have hall : ∀ n, n ∉ ns ∧ n ∉ ms := by
      intro n
      rw [← not_or, ← NameSet.mem_union, NameSet.union, ← NameSet.mem_names, hnames]
      exact List.not_mem_nil
    have hns : ns.names = [] := List.eq_nil_iff_forall_not_mem.mpr fun n => (hall n).1
    have hms : ms.names = [] := List.eq_nil_iff_forall_not_mem.mpr fun n => (hall n).2
    simp [render, hns, hms, hkind, Outcome.forEach]
  | cons n names => rfl

theorem isName_concat (habove : ∀ n ∈ above, IsName n) {name : String} (hname : IsName name) :
    ∀ n ∈ above ++ [name], IsName n :=
  List.forall_mem_append.mpr ⟨habove, List.forall_mem_singleton.mpr hname⟩

/-- The events of two lists are located if those of the items are that both have. -/
theorem located_list {m n : Nat} {a b : Nat → State} (hs : (list m a).Addressable)
    (ht : (list n b).Addressable) (habove : ∀ n ∈ above, IsName n)
    (h : ∀ i, i < m → i < n → Located (shownAt (some (a i))) (shownAt (some (b i)))
      (above ++ [Numeral.text i]) ((a i).events (pathTo (above ++ [Numeral.text i])) (b i))) :
    Located (shownAt (some (list m a))) (shownAt (some (list n b))) above
      ((list m a).events (pathTo above) (list n b)) := by
  have hrange : ∀ i ∈ List.range (max m n), i < Numeral.wordBound ∧ (i < m ∨ i < n) := by
    intro i hi
    have hm := hs.1
    have hn := ht.1
    rw [List.mem_range] at hi
    omega
  simp only [events, childPath_pathTo habove]
  refine located_flatMap Numeral.text habove (fun i _ => Numeral.isName_text i) ?_
    (fun i hi => shownAt_cons (step_list (hrange i hi).1))
    (fun i hi => shownAt_cons (step_list (hrange i hi).1)) ?_
  · exact List.nodup_range.imp fun hne heq => hne (Numeral.text_injective heq)
  · intro i hi
    exact located_sides (hrange i hi).2 (fun hm => (hs.2 i hm).faultless)
      (fun hn => (ht.2 i hn).faultless) (h i)

/-- The events of two maps are located if those of the entries are that both have. -/
theorem located_map {ks ls : NameSet} {a b : String → State} (hs : (map ks a).Addressable)
    (ht : (map ls b).Addressable) (habove : ∀ n ∈ above, IsName n)
    (h : ∀ k, k ∈ ks → k ∈ ls → Located (shownAt (some (a k))) (shownAt (some (b k)))
      (above ++ [k]) ((a k).events (pathTo (above ++ [k])) (b k))) :
    Located (shownAt (some (map ks a))) (shownAt (some (map ls b))) above
      ((map ks a).events (pathTo above) (map ls b)) := by
  have hname : ∀ k ∈ (ks.union ls).names, IsName k := by
    intro k hk
    exact (NameSet.mem_union.mp hk).elim (fun hk => (hs k hk).1) fun hk => (ht k hk).1
  simp only [events, childPath_pathTo habove]
  refine located_flatMap id habove hname (NameSet.nodup_names _)
    (fun k _ => shownAt_cons rfl) (fun k _ => shownAt_cons rfl) ?_
  intro k hk
  have hone : ks.contains k = true ∨ ls.contains k = true := by
    simpa using NameSet.mem_union.mp hk
  simp only [Addressable, ← NameSet.contains_iff] at hs ht h
  exact located_sides hone (fun hks => (hs k hks).2.faultless) (fun hls => (ht k hls).2.faultless)
    (h k)

/-- The events of two records of one kind are located if those of their fields are, where a missing
field counts as null. -/
theorem located_record {k : String} {ns ms : NameSet} {f g : String → State}
    (hs : (record k ns f).Addressable) (ht : (record k ms g).Addressable)
    (habove : ∀ n ∈ above, IsName n)
    (h : ∀ n, n ∈ ns → ∀ y : State, y.Addressable → Located (shownAt (some (f n)))
      (shownAt (some y)) (above ++ [n]) ((f n).events (pathTo (above ++ [n])) y)) :
    Located (shownAt (some (record k ns f))) (shownAt (some (record k ms g))) above
      ((record k ns f).events (pathTo above) (record k ms g)) := by
  have hname : ∀ n ∈ (ns.union ms).names, IsName n := by
    intro n hn
    exact (NameSet.mem_union.mp hn).elim (fun hn => (hs n hn).1) fun hn => (ht n hn).1
  have hfield : ∀ n, ((recordField? ms g n).getD null).Addressable := by
    intro n
    cases hg : recordField? ms g n with
    | none => trivial
    | some y =>
      obtain ⟨hn, rfl⟩ := mem_recordField?_iff.mp hg
      exact (ht n hn).2
  rw [events_record, if_pos rfl]
  simp only [childPath_pathTo habove]
  refine located_flatMap id habove hname (NameSet.nodup_names _)
    (fun n _ => shownAt_cons (step_record ..)) (fun n _ => shownAt_cons (step_record ..)) ?_
  intro n _
  rw [id_eq, ← shownAt_getD_null (recordField? ns f n), ← shownAt_getD_null (recordField? ms g n)]
  cases hf : recordField? ns f n with
  | none => exact @located_scalars null _ trivial (hfield n).faultless _
  | some x =>
    obtain ⟨hn, rfl⟩ := mem_recordField?_iff.mp hf
    exact h n hn _ (hfield n)

/-- The events met when two states are walked together are differences at places below the one that
the walk starts from. -/
theorem located_events (hs : s.Addressable) (ht : t.Addressable) (habove : ∀ n ∈ above, IsName n) :
    Located (shownAt (some s)) (shownAt (some t)) above (s.events (pathTo above) t) := by
  -- What lies below a segment is walked with a longer path, and with what the other state has there.
  induction s generalizing t above with
  | list m a ih =>
    cases t with
    | list n b =>
      refine located_list hs ht habove ?_
      intro i hm hn
      exact ih i (hs.2 i hm) (ht.2 i hn) (isName_concat habove (Numeral.isName_text i))
    | _ => exact located_scalars hs.faultless ht.faultless above
  | map ks a ih =>
    cases t with
    | map ls b =>
      refine located_map hs ht habove ?_
      intro k hk hl
      exact ih k (hs k hk).2 (ht k hl).2 (isName_concat habove (hs k hk).1)
    | _ => exact located_scalars hs.faultless ht.faultless above
  | record k ns f ih =>
    cases t with
    | record l ms g =>
      by_cases hkind : k = l
      · subst hkind
        refine located_record hs ht habove ?_
        intro n hn y hy
        exact ih n (hs n hn).2 hy (isName_concat habove (hs n hn).1)
      · rw [events_record, if_neg hkind]
        exact located_differing (by simpa using hs.faultless) (by simpa using ht.faultless) above
    | foreign kind names text reading field => exact ht.elim
    | _ => exact located_scalars hs.faultless ht.faultless above
  | pairs xs => exact hs.elim
  | foreign kind names text reading field ih => exact hs.elim
  | _ => exact located_scalars hs.faultless ht.faultless above

/-! ### Comparisons -/

/-- A comparison takes the first events, as many as it was asked for. -/
theorem take_eq_of_firstDifferences {limit : Nat} {es : List (Outcome Difference)}
    {ds : List Difference} (h : firstDifferences limit es = .value ds) :
    es.take limit = ds.map .value := by
  induction es generalizing limit ds with
  | nil =>
    obtain rfl : [] = ds := by
      cases limit <;> exact Outcome.value.inj h
    simp
  | cons e es ih =>
    cases limit with
    | zero =>
      obtain rfl : [] = ds := Outcome.value.inj h
      simp
    | succ limit =>
      obtain ⟨d, he, htail⟩ := Outcome.andThen_eq_value_iff.mp h
      obtain ⟨rest, hrest, heq⟩ := Outcome.andThen_eq_value_iff.mp htail
      obtain rfl := Outcome.value.inj heq
      rw [List.take_succ_cons, ih hrest, he, List.map_cons]

/-- Two states whose places have paths can be compared with any limit.  What either state shows at
the path of a difference is what the difference says of it, and no two differences have the same
path. -/
theorem compare_agrees_with_follow (hs : s.Addressable) (ht : t.Addressable) (limit : Nat) :
    ∃ ds, compare s t limit = .value ds ∧
      (∀ d ∈ ds, s.renderAt d.path = .value d.before ∧ t.renderAt d.path = .value d.after) ∧
      (ds.map (·.path)).Nodup := by
  have hlocated : Located (shownAt (some s)) (shownAt (some t)) [] (s.events "" t) :=
    located_events hs ht (by simp)
  obtain ⟨ds, hds⟩ :=
    exists_firstDifferences (allDifferences_events hs.faultless ht.faultless "") limit
  have htake := take_eq_of_firstDifferences hds
  refine ⟨ds, hds, ?_, ?_⟩
  · intro d hd
    have hmem : .value d ∈ s.events "" t := by
      refine List.mem_of_mem_take (i := limit) ?_
      rw [htake]
      exact List.mem_map_of_mem hd
    obtain ⟨place, d', hplace, heq, hpath, hbefore, hafter⟩ := hlocated.shows _ hmem
    obtain rfl := Outcome.value.inj heq
    rw [hpath, List.nil_append, renderAt_pathTo hplace, renderAt_pathTo hplace]
    exact ⟨hbefore, hafter⟩
  · have hdistinct := hlocated.distinct.sublist (List.take_sublist limit _)
    rw [htake, List.pairwise_map] at hdistinct
    rw [List.nodup_iff_pairwise_ne, List.pairwise_map]
    exact hdistinct.imp fun h => h _ _ rfl rfl

private def account (roles : List State) : State :=
  map (.ofList ["user"]) fun _ => record "Account" (.ofList ["roles"]) fun _ => ofItems roles

private theorem addressable_account {roles : List State}
    (hlength : roles.length ≤ Numeral.wordBound) (hroles : ∀ role ∈ roles, role.Addressable) :
    (account roles).Addressable := by
  intro user huser
  obtain rfl : user = "user" := by simpa using huser
  refine ⟨by decide, ?_⟩
  intro name hname
  obtain rfl : name = "roles" := by simpa using hname
  refine ⟨by decide, hlength, ?_⟩
  intro i hi
  change (roles.getD i null).Addressable
  have hrole : roles.getD i null = roles[i] := by simp [hi]
  rw [hrole]
  exact hroles _ (List.getElem_mem hi)

/-- The role that an account has lost is found at its path before, and nothing is there after. -/
theorem compare_agrees_of_lost_role :
    let s := account [.text "admin", .text "dev"]
    let t := account [.text "admin"]
    s.Addressable ∧ t.Addressable ∧ ∃ ds, compare s t 5 = .value ds ∧
      ∃ d ∈ ds, d.path = "user.roles.1" ∧ d.before = some "dev" ∧ d.after = none ∧
        s.renderAt "user.roles.1" = .value (some "dev") ∧
        t.renderAt "user.roles.1" = .value none := by
  intro s t
  have hs : s.Addressable := addressable_account (by decide) (by simp [Addressable])
  have ht : t.Addressable := addressable_account (by decide) (by simp [Addressable])
  have hcompare : compare s t 5 = .value [⟨"user.roles.1", some "dev", none⟩] := by decide +kernel
  obtain ⟨ds, hds, hshown, -⟩ := compare_agrees_with_follow hs ht 5
  obtain rfl := Outcome.value.inj (hds.symm.trans hcompare)
  obtain ⟨hbefore, hafter⟩ := hshown _ List.mem_cons_self
  exact ⟨hs, ht, _, hds, _, List.mem_cons_self, rfl, rfl, rfl, hbefore, hafter⟩

end State

end RuleMatching
