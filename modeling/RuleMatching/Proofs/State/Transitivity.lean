import RuleMatching.Proofs.State.Equality

/-!
Equality of states as a relation.  It is symmetric, and transitive but for one thing: of two objects
only those fields are compared that one of them lists, and their texts if none are listed, so a third
object can be equal to both where they are not compared with each other.  Three states have a `Gap` if
that happens somewhere in them, and then the first is not equal to the last: `equals_trans_iff_not_gap`.
Objects that list whatever they have leave no gap.
-/

set_option autoImplicit false
set_option relaxedAutoImplicit false

namespace RuleMatching

theorem Binary64.equals_trans {x y z : Binary64} (hxy : x.equals y = true)
    (hyz : y.equals z = true) : x.equals z = true := by
  simp only [equals, Bool.and_eq_true, Bool.or_eq_true, beq_iff_eq] at hxy hyz ⊢
  obtain ⟨⟨hx, -⟩, hxy⟩ := hxy
  obtain ⟨⟨-, hz⟩, hyz⟩ := hyz
  have hzero : ∀ v w : Binary64, v.bits = w.bits → v.isZero = w.isZero := by
    intro v w h
    rw [isZero, isZero, h]
  refine ⟨⟨hx, hz⟩, ?_⟩
  rcases hxy with hxy | ⟨hzx, hzy⟩
  · rcases hyz with hyz | ⟨hzy, hzz⟩
    · exact .inl (hxy.trans hyz)
    · exact .inr ⟨(hzero x y hxy).trans hzy, hzz⟩
  · rcases hyz with hyz | ⟨-, hzz⟩
    · exact .inr ⟨hzx, (hzero y z hyz).symm.trans hzy⟩
    · exact .inr ⟨hzx, hzz⟩

theorem FlagSet.same_trans {f g h : FlagSet} (hfg : f.same g = true) (hgh : g.same h = true) :
    f.same h = true := by
  simp only [same, Bool.and_eq_true, beq_iff_eq] at hfg hgh ⊢
  exact ⟨hfg.1.trans hgh.1, hfg.2.trans hgh.2⟩

namespace State

variable {s t u : State} {n : String}

/-! ### Equal states -/

/-- No difference is found between two states. -/
def Same (s t : State) : Prop := s.equals t = .value true

/-- Two states are equal just if no event is met when they are walked together. -/
theorem same_iff (path : String) : s.Same t ↔ s.events path t = [] := by
  have hpath : ∀ path path', s.events path t = [] → s.events path' t = [] := by
    intro path path' h
    have hflipped : t.events path s = [] := events_eq_nil_symm h
    exact events_eq_nil_symm hflipped
  have hiff : s.events path t = [] ↔ s.events "" t = [] := ⟨hpath path "", hpath "" path⟩
  rw [hiff, Same, equals, compare]
  rcases s.events "" t with _ | ⟨_ | _, es⟩ <;> simp [firstDifferences]

theorem Same.symm (h : s.Same t) : t.Same s :=
  (same_iff "").mpr (events_eq_nil_symm ((same_iff "").mp h))

theorem exists_equals (hs : s.Faultless) (ht : t.Faultless) : ∃ same, s.equals t = .value same := by
  obtain ⟨ds, hds⟩ := exists_firstDifferences (allDifferences_events hs ht "") 1
  exact ⟨ds.isEmpty, by rw [equals, compare, hds, Outcome.andThen_value]⟩

theorem equals_eq_false_of_not_same (hs : s.Faultless) (ht : t.Faultless) (h : ¬s.Same t) :
    s.equals t = .value false := by
  obtain ⟨same, hsame⟩ := exists_equals hs ht
  cases same with
  | false => exact hsame
  | true => exact absurd hsame h

theorem same_null_iff : null.Same t ↔ t = null := by
  refine ⟨fun h => eq_null_of_events_null ((same_iff "").mp h), ?_⟩
  rintro rfl
  rfl

theorem same_list_iff {m n : Nat} {a b : Nat → State} :
    (list m a).Same (list n b) ↔ m = n ∧ ∀ i, i < m → (a i).Same (b i) := by
  rw [same_iff "", events, List.flatMap_eq_nil_iff]
  simp only [List.mem_range, sides_eq_nil_iff, ← same_iff]
  constructor
  · intro h
    have hlength : m = n := by
      rcases Nat.lt_trichotomy m n with hlt | heq | hgt
      · exact absurd (h m (by omega)).1 (Nat.lt_irrefl m)
      · exact heq
      · exact absurd (h n (by omega)).2.1 (Nat.lt_irrefl n)
    exact ⟨hlength, fun i hi => (h i (by omega)).2.2⟩
  · rintro ⟨rfl, h⟩ i hi
    have hi : i < m := by omega
    exact ⟨hi, hi, h i hi⟩

theorem same_map_iff {ks ls : NameSet} {a b : String → State} :
    (map ks a).Same (map ls b) ↔ ∀ k, (k ∈ ks ↔ k ∈ ls) ∧ (k ∈ ks → (a k).Same (b k)) := by
  rw [same_iff "", events, List.flatMap_eq_nil_iff]
  simp only [NameSet.mem_names, NameSet.mem_union, NameSet.contains_iff, sides_eq_nil_iff, ← same_iff]
  constructor
  · intro h k
    exact ⟨⟨fun hk => (h k (.inl hk)).2.1, fun hk => (h k (.inr hk)).1⟩,
      fun hk => (h k (.inl hk)).2.2⟩
  · intro h k hk
    obtain ⟨hkeys, hsame⟩ := h k
    have hk : k ∈ ks := hk.elim id hkeys.mpr
    exact ⟨hk, hkeys.mp hk, hsame hk⟩

theorem same_pairs_iff {xs ys : List (String × String)} :
    (pairs xs).Same (pairs ys) ↔ xs = ys := by
  rw [same_iff "", events, pairEvents_eq_nil_iff]

theorem sameScalar_trans (hst : sameScalar s t = true) (htu : sameScalar t u = true) :
    sameScalar s u = true := by
  cases s <;> cases t <;> simp only [sameScalar, Bool.false_eq_true] at hst <;>
    cases u <;> simp only [sameScalar, Bool.false_eq_true] at htu ⊢
  case float.float.float x y z => exact Binary64.equals_trans hst htu
  case flags.flags.flags f g h => exact FlagSet.same_trans hst htu
  all_goals simp_all

/-- Null and the scalars have no parts, and are compared as a whole. -/
theorem same_iff_sameScalar (hs : (s.isNull || s.isScalar) = true) :
    s.Same t ↔ sameScalar s t = true := by
  rw [same_iff ""]
  cases s <;> simp_all [events, isNull, isScalar, scalarText?]

theorem isScalar_of_sameScalar (h : sameScalar s t = true) : (t.isNull || t.isScalar) = true := by
  cases s <;> cases t <;> simp_all [sameScalar, isNull, isScalar, scalarText?]

theorem same_trans_of_isScalar (hs : (s.isNull || s.isScalar) = true) (hst : s.Same t)
    (htu : t.Same u) : s.Same u := by
  have hst := (same_iff_sameScalar hs).mp hst
  have htu := (same_iff_sameScalar (isScalar_of_sameScalar hst)).mp htu
  exact (same_iff_sameScalar hs).mpr (sameScalar_trans hst htu)

/-! ### Equal objects -/

/-- The names that an object lists.  What is no object lists none. -/
def listed (s : State) : List String := s.object?.elim [] fun o => o.names.getD []

/-- What an object has under a name, which is null if it has nothing there. -/
def fieldOrNull (s : State) (name : String) : State :=
  s.object?.elim null fun o => ((o.field? name).getD none).getD null

variable {a b : ObjectView}

theorem exists_object?_of_listed (hn : n ∈ s.listed) : ∃ a, s.object? = some a := by
  rw [listed] at hn
  cases hs : s.object? with
  | none => simp [hs] at hn
  | some a => exact ⟨a, rfl⟩

theorem fieldOrNull_eq (ha : s.object? = some a) {x : Option State}
    (hx : a.field? n = .value x) : s.fieldOrNull n = x.getD null := by
  rw [fieldOrNull, ha, Option.elim_some, hx, Outcome.getD]

theorem faultless_fieldOrNull (hs : s.Faultless) (n : String) : (s.fieldOrNull n).Faultless := by
  cases ha : s.object? with
  | none => simp [fieldOrNull, ha, Faultless]
  | some a =>
    obtain ⟨x, hx, hfaultless⟩ := (faultless_of_object? hs ha).field n
    rw [fieldOrNull_eq ha hx]
    cases x with
    | none => trivial
    | some x => exact hfaultless x rfl

/-- The view of an object shows the kind and the text of the object. -/
theorem kind_text_of_object? (ha : s.object? = some a) : a.kind = s.kind ∧ a.text = s.render := by
  cases s with
  | record k ns f =>
    obtain rfl := Option.some.inj ha
    exact ⟨rfl, rfl⟩
  | foreign k ns t r f =>
    obtain rfl := Option.some.inj ha
    exact ⟨rfl, rfl⟩
  | _ => simp [object?] at ha

/-- What is equal to an object is an object. -/
theorem Same.exists_object? (h : s.Same t) (ha : s.object? = some a) : ∃ b, t.object? = some b := by
  cases hb : t.object? with
  | some b => exact ⟨b, rfl⟩
  | none =>
    rw [same_iff ""] at h
    cases s <;> simp_all [events, object?]

/-- States that are equal to one that lists names are objects, and so is that one. -/
theorem exists_objects_of_listed (ht : t.listed ≠ []) (hst : s.Same t) (htu : t.Same u) :
    ∃ a b c, s.object? = some a ∧ t.object? = some b ∧ u.object? = some c := by
  obtain ⟨n, hn⟩ := List.exists_mem_of_ne_nil _ ht
  obtain ⟨b, hb⟩ := exists_object?_of_listed hn
  obtain ⟨a, ha⟩ := hst.symm.exists_object? hb
  obtain ⟨c, hc⟩ := htu.exists_object? hb
  exact ⟨a, b, c, ha, hb, hc⟩

/-- Two objects are equal just if they are of one kind, their texts are the same if neither lists a
name, and they have equal fields under each name that one of them lists. -/
theorem same_objects_iff (hs : s.Faultless) (ht : t.Faultless) (ha : s.object? = some a)
    (hb : t.object? = some b) :
    s.Same t ↔ s.kind = t.kind ∧ (s.listed = [] → t.listed = [] → s.render = t.render) ∧
      ∀ n, n ∈ s.listed ∨ n ∈ t.listed → (s.fieldOrNull n).Same (t.fieldOrNull n) := by
  have hfaultless := faultless_of_object? hs ha
  have hfaultless' := faultless_of_object? ht hb
  obtain ⟨hkind, htext⟩ := kind_text_of_object? ha
  obtain ⟨hkind', htext'⟩ := kind_text_of_object? hb
  obtain ⟨ns, hns⟩ := hfaultless.names
  obtain ⟨ms, hms⟩ := hfaultless'.names
  have hlisted : s.listed = ns := by rw [listed, ha, Option.elim_some, hns, Outcome.getD]
  have hlisted' : t.listed = ms := by rw [listed, hb, Option.elim_some, hms, Outcome.getD]
  rw [same_iff "", events_eq_nil_iff_of_object? ha hb, hlisted, hlisted', ← hkind, ← hkind', ← htext,
    ← htext']
  simp only [← same_iff]
  constructor
  · rintro ⟨k, ns', ms', hk, hl, hns', hms', hshown, hfields⟩
    obtain rfl := Outcome.value.inj (hns.symm.trans hns')
    obtain rfl := Outcome.value.inj (hms.symm.trans hms')
    refine ⟨hk.trans hl.symm, ?_, ?_⟩
    · rintro rfl rfl
      obtain ⟨shown, hshown, hshown'⟩ := hshown rfl
      exact hshown.trans hshown'.symm
    · intro n hn
      obtain ⟨x, y, hx, hy, hsame⟩ := hfields n (List.mem_append.mpr hn)
      rwa [fieldOrNull_eq ha hx, fieldOrNull_eq hb hy]
  · rintro ⟨hk, hshown, hfields⟩
    obtain ⟨k, hk'⟩ := hfaultless.kind
    obtain ⟨shown, hshown'⟩ := hfaultless.text
    refine ⟨k, ns, ms, hk', hk ▸ hk', hns, hms, ?_, ?_⟩
    · intro hnil
      obtain ⟨hnil, hnil'⟩ := List.append_eq_nil_iff.mp hnil
      exact ⟨shown, hshown', hshown hnil hnil' ▸ hshown'⟩
    · intro n hn
      obtain ⟨x, hx, -⟩ := hfaultless.field n
      obtain ⟨y, hy, -⟩ := hfaultless'.field n
      have hsame := hfields n (List.mem_append.mp hn)
      rw [fieldOrNull_eq ha hx, fieldOrNull_eq hb hy] at hsame
      exact ⟨x, y, hx, hy, hsame⟩

/-- Equal states have equal fields under each name that one of them lists. -/
theorem Same.field (h : s.Same t) (hs : s.Faultless) (ht : t.Faultless)
    (hn : n ∈ s.listed ∨ n ∈ t.listed) : (s.fieldOrNull n).Same (t.fieldOrNull n) := by
  obtain ⟨⟨a, ha⟩, b, hb⟩ : (∃ a, s.object? = some a) ∧ ∃ b, t.object? = some b := by
    rcases hn with hn | hn
    · obtain ⟨a, ha⟩ := exists_object?_of_listed hn
      exact ⟨⟨a, ha⟩, h.exists_object? ha⟩
    · obtain ⟨b, hb⟩ := exists_object?_of_listed hn
      exact ⟨h.symm.exists_object? hb, b, hb⟩
  exact ((same_objects_iff hs ht ha hb).mp h).2.2 n hn

/-! ### Gaps -/

/-- Two of three objects at least list a name. -/
def ListedTwice (s t u : State) (n : String) : Prop :=
  (n ∈ s.listed ∧ n ∈ t.listed) ∨ (n ∈ t.listed ∧ n ∈ u.listed) ∨ (n ∈ s.listed ∧ n ∈ u.listed)

/-- The first or the last of three objects lists a name that neither of the others lists. -/
def ListedAlone (s t u : State) (n : String) : Prop :=
  (n ∈ s.listed ∧ n ∉ t.listed ∧ n ∉ u.listed) ∨ (n ∈ u.listed ∧ n ∉ s.listed ∧ n ∉ t.listed)

/-- What two of three objects list is compared in each pair of them. -/
theorem ListedTwice.pairs (h : ListedTwice s t u n) : (n ∈ s.listed ∨ n ∈ t.listed) ∧
    (n ∈ t.listed ∨ n ∈ u.listed) ∧ (n ∈ s.listed ∨ n ∈ u.listed) := by
  rcases h with ⟨h, h'⟩ | ⟨h, h'⟩ | ⟨h, h'⟩ <;> simp [h, h']

theorem listedTwice_or_alone (hn : n ∈ s.listed ∨ n ∈ u.listed) :
    ListedTwice s t u n ∨ ListedAlone s t u n := by
  rw [ListedTwice, ListedAlone]
  tauto

/-- At one place in three states there are objects of which the first and the last differ in what they
have under a name that one of them alone lists, or differ in their texts while only the one in between
lists names. -/
inductive Gap : State → State → State → Prop
  | item {l m n : Nat} {a b c : Nat → State} {i : Nat} (hl : i < l) (hm : i < m) (hn : i < n)
      (h : Gap (a i) (b i) (c i)) : Gap (list l a) (list m b) (list n c)
  | entry {ks ls ms : NameSet} {a b c : String → State} {k : String} (hk : k ∈ ks) (hl : k ∈ ls)
      (hm : k ∈ ms) (h : Gap (a k) (b k) (c k)) : Gap (map ks a) (map ls b) (map ms c)
  | field {s t u : State} {n : String} (hlisted : ListedTwice s t u n)
      (h : Gap (s.fieldOrNull n) (t.fieldOrNull n) (u.fieldOrNull n)) : Gap s t u
  | alone {s t u : State} {n : String} (hlisted : ListedAlone s t u n)
      (h : (s.fieldOrNull n).equals (u.fieldOrNull n) = .value false) : Gap s t u
  | text {s t u : State} (hs : s.listed = []) (ht : t.listed ≠ []) (hu : u.listed = [])
      (h : s.render ≠ u.render) : Gap s t u

/-- Objects that are both equal to a third are equal, or there is a gap, if that is so for their
fields. -/
theorem same_or_gap_of_object? (hs : s.Faultless) (ht : t.Faultless) (hu : u.Faultless)
    (ha : s.object? = some a)
    (hfield : ∀ n, (s.fieldOrNull n).Same (t.fieldOrNull n) →
      (t.fieldOrNull n).Same (u.fieldOrNull n) → (s.fieldOrNull n).Same (u.fieldOrNull n) ∨
        Gap (s.fieldOrNull n) (t.fieldOrNull n) (u.fieldOrNull n))
    (hst : s.Same t) (htu : t.Same u) : s.Same u ∨ Gap s t u := by
  obtain ⟨b, hb⟩ := hst.exists_object? ha
  obtain ⟨c, hc⟩ := htu.exists_object? hb
  obtain ⟨hkind, htext, hfields⟩ := (same_objects_iff hs ht ha hb).mp hst
  obtain ⟨hkind', htext', hfields'⟩ := (same_objects_iff ht hu hb hc).mp htu
  by_cases hgap : Gap s t u
  · exact .inr hgap
  · refine .inl ((same_objects_iff hs hu ha hc).mpr ⟨hkind.trans hkind', ?_, ?_⟩)
    · intro hs hu
      by_cases ht : t.listed = []
      · exact (htext hs ht).trans (htext' ht hu)
      · exact Decidable.byContradiction fun hne => hgap (.text hs ht hu hne)
    · intro n hn
      rcases listedTwice_or_alone hn with htwice | halone
      · obtain ⟨hab, hbc, -⟩ := htwice.pairs
        exact (hfield n (hfields n hab) (hfields' n hbc)).resolve_right fun h =>
          hgap (.field htwice h)
      · exact Classical.byContradiction fun hne => hgap (.alone halone
          (equals_eq_false_of_not_same (faultless_fieldOrNull hs n) (faultless_fieldOrNull hu n) hne))

/-- What an object has under a name is what it was built from, or null. -/
theorem fieldOrNull_record (k : String) (ns : NameSet) (f : String → State) (n : String) :
    (record k ns f).fieldOrNull n = if n ∈ ns.names then f n else null := by
  by_cases hn : n ∈ ns.names <;>
    simp [fieldOrNull, object?, Outcome.getD, recordField?, NameSet.contains, hn]

theorem fieldOrNull_foreign (k : Outcome String) (ns : Outcome (List String)) (t : Outcome String)
    (r : String → FieldReading) (f : String → State) (n : String) :
    (foreign k ns t r f).fieldOrNull n = if r n = .present then f n else null := by
  simp only [fieldOrNull, object?, Option.elim_some, foreignField?]
  cases r n <;> rfl

/-- States that are both equal to a third are equal, or there is a gap. -/
theorem same_or_gap (hs : s.Faultless) (ht : t.Faultless) (hu : u.Faultless) (hst : s.Same t)
    (htu : t.Same u) : s.Same u ∨ Gap s t u := by
  -- A field is either what the object holds there, or null, which is equal to nothing else.
  have hnull : ∀ {t u : State}, null.Same t → t.Same u → null.Same u ∨ Gap null t u := by
    intro t u hst htu
    obtain rfl := same_null_iff.mp hst
    exact .inl htu
  induction s generalizing t u with
  | list l a ih =>
    cases t with
    | list m b =>
      cases u with
      | list n c =>
        obtain ⟨rfl, hab⟩ := same_list_iff.mp hst
        obtain ⟨rfl, hbc⟩ := same_list_iff.mp htu
        by_cases hgap : ∃ i, i < l ∧ Gap (a i) (b i) (c i)
        · obtain ⟨i, hi, hgap⟩ := hgap
          exact .inr (.item hi hi hi hgap)
        · refine .inl (same_list_iff.mpr ⟨rfl, fun i hi => ?_⟩)
          exact (ih i (hs i hi) (ht i hi) (hu i hi) (hab i hi) (hbc i hi)).resolve_right
            fun h => hgap ⟨i, hi, h⟩
      | _ => simp [same_iff "", events, sameScalar] at htu
    | _ => simp [same_iff "", events, sameScalar] at hst
  | map ks a ih =>
    cases t with
    | map ls b =>
      cases u with
      | map ms c =>
        have hab := same_map_iff.mp hst
        have hbc := same_map_iff.mp htu
        by_cases hgap : ∃ k, k ∈ ks ∧ Gap (a k) (b k) (c k)
        · obtain ⟨k, hk, hgap⟩ := hgap
          have hl := (hab k).1.mp hk
          exact .inr (.entry hk hl ((hbc k).1.mp hl) hgap)
        · refine .inl (same_map_iff.mpr fun k => ⟨(hab k).1.trans (hbc k).1, fun hk => ?_⟩)
          have hl := (hab k).1.mp hk
          have hm := (hbc k).1.mp hl
          exact (ih k (hs k hk) (ht k hl) (hu k hm) ((hab k).2 hk) ((hbc k).2 hl)).resolve_right
            fun h => hgap ⟨k, hk, h⟩
      | _ => simp [same_iff "", events, sameScalar] at htu
    | _ => simp [same_iff "", events, sameScalar] at hst
  | pairs xs =>
    cases t with
    | pairs ys =>
      cases u with
      | pairs zs =>
        exact .inl (same_pairs_iff.mpr ((same_pairs_iff.mp hst).trans (same_pairs_iff.mp htu)))
      | _ => simp [same_iff "", events, sameScalar] at htu
    | _ => simp [same_iff "", events, sameScalar] at hst
  | record k ns f ih =>
    refine same_or_gap_of_object? hs ht hu rfl (fun n => ?_) hst htu
    have hfield := faultless_fieldOrNull hs n
    by_cases hn : n ∈ ns.names
    · rw [fieldOrNull_record, if_pos hn] at hfield ⊢
      exact ih n hfield (faultless_fieldOrNull ht n) (faultless_fieldOrNull hu n)
    · rw [fieldOrNull_record, if_neg hn]
      exact hnull
  | foreign k ns shown r f ih =>
    refine same_or_gap_of_object? hs ht hu rfl (fun n => ?_) hst htu
    have hfield := faultless_fieldOrNull hs n
    by_cases hn : r n = .present
    · rw [fieldOrNull_foreign, if_pos hn] at hfield ⊢
      exact ih n hfield (faultless_fieldOrNull ht n) (faultless_fieldOrNull hu n)
    · rw [fieldOrNull_foreign, if_neg hn]
      exact hnull
  | _ => exact .inl (same_trans_of_isScalar rfl hst htu)

/-- A gap keeps states apart that are both equal to the one in between. -/
theorem Gap.not_same (h : Gap s t u) (hs : s.Faultless) (ht : t.Faultless) (hu : u.Faultless)
    (hst : s.Same t) (htu : t.Same u) : ¬s.Same u := by
  intro hsu
  induction h with
  | item hl hm hn _ ih =>
    have hab := (same_list_iff.mp hst).2 _ hl
    have hbc := (same_list_iff.mp htu).2 _ hm
    exact ih (hs _ hl) (ht _ hm) (hu _ hn) hab hbc ((same_list_iff.mp hsu).2 _ hl)
  | entry hk hl hm _ ih =>
    have hab := (same_map_iff.mp hst _).2 hk
    have hbc := (same_map_iff.mp htu _).2 hl
    exact ih (hs _ hk) (ht _ hl) (hu _ hm) hab hbc ((same_map_iff.mp hsu _).2 hk)
  | field hlisted _ ih =>
    obtain ⟨hab, hbc, hac⟩ := hlisted.pairs
    exact ih (faultless_fieldOrNull hs _) (faultless_fieldOrNull ht _) (faultless_fieldOrNull hu _)
      (hst.field hs ht hab) (htu.field ht hu hbc) (hsu.field hs hu hac)
  | alone hlisted hne =>
    have hsame := hsu.field hs hu (hlisted.imp And.left And.left)
    exact absurd (hne.symm.trans hsame) (by simp)
  | text hlisted hlisted' hlisted'' hne =>
    obtain ⟨a, b, c, ha, hb, hc⟩ := exists_objects_of_listed hlisted' hst htu
    exact hne (((same_objects_iff hs hu ha hc).mp hsu).2.1 hlisted hlisted'')

/-! ### States without gaps -/

/-- Each object in a state is a record, or it lists some name and every name under which it has
something. -/
def Candid : State → Prop
  | list size item => ∀ i, i < size → (item i).Candid
  | map keys entry => ∀ k, k ∈ keys → (entry k).Candid
  | record _ names field => ∀ n, n ∈ names → (field n).Candid
  | foreign _ names _ reading field =>
      (∃ ns, names = .value ns ∧ ns ≠ [] ∧ ∀ n, n ∉ ns → reading n = .present → field n = null) ∧
        ∀ n, reading n = .present → (field n).Candid
  | _ => True

theorem Candid.fieldOrNull (hs : s.Candid) (n : String) : (s.fieldOrNull n).Candid := by
  cases s with
  | record k ns f =>
    rw [fieldOrNull_record]
    split
    · rename_i hn
      exact hs n hn
    · trivial
  | foreign k ns t r f =>
    rw [fieldOrNull_foreign]
    split
    · rename_i hn
      exact hs.2 n hn
    · trivial
  | _ => trivial

/-- A candid object has nothing under a name that it does not list. -/
theorem Candid.fieldOrNull_eq_null (hs : s.Candid) (hn : n ∉ s.listed) : s.fieldOrNull n = null := by
  cases s with
  | record k ns f =>
    have hn : n ∉ ns.names := hn
    rw [fieldOrNull_record, if_neg hn]
  | foreign k ns t r f =>
    obtain ⟨⟨ms, rfl, -, hnull⟩, -⟩ := hs
    rw [fieldOrNull_foreign]
    split
    · rename_i hpresent
      exact hnull n hn hpresent
    · rfl
  | _ => rfl

/-- The text of a candid object that lists no name depends on its kind alone. -/
theorem Candid.render_eq (hs : s.Candid) (hlisted : s.listed = []) (ha : s.object? = some a) :
    s.render = s.kind.andThen fun k => .value (k ++ " " ++ braced []) := by
  cases s with
  | record k ns f =>
    have hnames : ns.names = [] := hlisted
    rw [render, hnames]
    rfl
  | foreign k ns t r f =>
    obtain ⟨⟨ms, rfl, hne, -⟩, -⟩ := hs
    exact absurd hlisted hne
  | _ => simp [object?] at ha

/-- There is no gap between candid states of which neighbours are equal. -/
theorem Candid.not_gap (cs : s.Candid) (ct : t.Candid) (cu : u.Candid) (hs : s.Faultless)
    (ht : t.Faultless) (hu : u.Faultless) (hst : s.Same t) (htu : t.Same u) : ¬Gap s t u := by
  intro h
  induction h with
  | item hl hm hn _ ih =>
    exact ih (cs _ hl) (ct _ hm) (cu _ hn) (hs _ hl) (ht _ hm) (hu _ hn)
      ((same_list_iff.mp hst).2 _ hl) ((same_list_iff.mp htu).2 _ hm)
  | entry hk hl hm _ ih =>
    exact ih (cs _ hk) (ct _ hl) (cu _ hm) (hs _ hk) (ht _ hl) (hu _ hm)
      ((same_map_iff.mp hst _).2 hk) ((same_map_iff.mp htu _).2 hl)
  | field hlisted _ ih =>
    obtain ⟨hab, hbc, -⟩ := hlisted.pairs
    exact ih (cs.fieldOrNull _) (ct.fieldOrNull _) (cu.fieldOrNull _) (faultless_fieldOrNull hs _)
      (faultless_fieldOrNull ht _) (faultless_fieldOrNull hu _) (hst.field hs ht hab)
      (htu.field ht hu hbc)
  | alone hlisted hne =>
    -- The one in between has null there, so the one that lists the name has.
    rcases hlisted with ⟨hn, hn', hn''⟩ | ⟨hn, hn', hn''⟩
    · have hsame := (hst.field hs ht (.inl hn)).symm
      rw [ct.fieldOrNull_eq_null hn', same_null_iff] at hsame
      rw [hsame, cu.fieldOrNull_eq_null hn''] at hne
      exact absurd hne (by decide)
    · have hsame := htu.field ht hu (.inr hn)
      rw [ct.fieldOrNull_eq_null hn'', same_null_iff] at hsame
      rw [hsame, cs.fieldOrNull_eq_null hn'] at hne
      exact absurd hne (by decide)
  | text hlisted hlisted' hlisted'' hne =>
    obtain ⟨a, b, c, ha, hb, hc⟩ := exists_objects_of_listed hlisted' hst htu
    obtain ⟨hkind, -⟩ := (same_objects_iff hs ht ha hb).mp hst
    obtain ⟨hkind', -⟩ := (same_objects_iff ht hu hb hc).mp htu
    rw [cs.render_eq hlisted ha, cu.render_eq hlisted'' hc, hkind, hkind'] at hne
    exact hne rfl

/-- Two faultless states can be compared for equality, in either order with the same result.  If both
the first and the last of three are equal to the one in between, then they are equal just if there is
no gap, and there is none if each object in them is a record, or lists some name and every name under
which it has something. -/
theorem equals_trans_iff_not_gap (hs : s.Faultless) (ht : t.Faultless) :
    (∃ same, s.equals t = .value same ∧ t.equals s = .value same) ∧
    ∀ u : State, u.Faultless → s.equals t = .value true → t.equals u = .value true →
      (s.equals u = .value true ↔ ¬Gap s t u) ∧
      (s.Candid → t.Candid → u.Candid → s.equals u = .value true) := by
  refine ⟨?_, ?_⟩
  · obtain ⟨same, hsame⟩ := exists_equals hs ht
    obtain ⟨same', hsame'⟩ := exists_equals ht hs
    have hsymm : same = true ↔ same' = true := by
      have hsymm : s.Same t ↔ t.Same s := ⟨Same.symm, Same.symm⟩
      simpa [Same, hsame, hsame'] using hsymm
    obtain rfl := Bool.eq_iff_iff.mpr hsymm
    exact ⟨same, hsame, hsame'⟩
  · intro u hu hst htu
    have htrans : s.Same u ↔ ¬Gap s t u :=
      ⟨fun hsu hgap => hgap.not_same hs ht hu hst htu hsu,
        fun hgap => (same_or_gap hs ht hu hst htu).resolve_right hgap⟩
    refine ⟨htrans, ?_⟩
    intro cs ct cu
    exact htrans.mpr (cs.not_gap ct cu hs ht hu hst htu)

/-- A record with the same state in each of some fields. -/
private def uniform (names : List String) (v : State) : State :=
  .record "K" (.ofList names) fun _ => v

/-- An object that has numbers in its fields but lists none of them. -/
private def reticent (fields : List (String × Int64)) : State :=
  .foreign (.value "K") (.value []) (.value "Opaque(K)")
    (fun n => if (Text.lookup n fields).isSome then .present else .absent)
    fun n => ((Text.lookup n fields).map .int).getD .null

private theorem faultless_uniform (names : List String) {v : State} (hv : v.Faultless) :
    (uniform names v).Faultless := fun _ _ => hv

private theorem faultless_reticent (fields : List (String × Int64)) :
    (reticent fields).Faultless := by
  refine ⟨⟨_, rfl⟩, ⟨_, rfl⟩, ⟨_, rfl⟩, fun n => ⟨?_, fun _ => ?_⟩⟩
  · dsimp only
    split <;> decide
  · dsimp only
    cases Text.lookup n fields <;> trivial

/-- An object that lists none of its fields is equal to two records that each have one of them, and an
object without fields is equal to a record that has null in one, and that to the empty record.  Neither
way are the first and the last equal. -/
theorem not_equals_trans :
    let a := uniform ["x"] (.int 1)
    let b := reticent [("x", 1), ("y", 2)]
    let c := uniform ["y"] (.int 2)
    let a' := reticent []
    let b' := uniform ["x"] .null
    let c' := uniform [] .null
    (a.Faultless ∧ b.Faultless ∧ c.Faultless ∧ a.equals b = .value true ∧ b.equals c = .value true ∧
      a.equals c = .value false) ∧
    (a'.Faultless ∧ b'.Faultless ∧ c'.Faultless ∧ a'.equals b' = .value true ∧
      b'.equals c' = .value true ∧ a'.equals c' = .value false) := by
  refine ⟨⟨faultless_uniform _ trivial, faultless_reticent _, faultless_uniform _ trivial, ?_⟩,
    ⟨faultless_reticent _, faultless_uniform _ trivial, faultless_uniform _ trivial, ?_⟩⟩
  · decide +kernel
  · decide +kernel

/-- A field that is null is as good as none, also on the way from one record to another.  There is a
gap between two records that an object without listed fields lies between. -/
theorem equals_trans_of_null_field :
    let s := uniform ["x"] .null
    let t := uniform ["x", "y"] .null
    let u := uniform ["y"] .null
    let a := uniform ["x"] (.int 1)
    let b := reticent [("x", 1), ("y", 2)]
    let c := uniform ["y"] (.int 2)
    s.equals t = .value true ∧ t.equals u = .value true ∧ s.equals u = .value true ∧ Gap a b c := by
  intro s t u a b c
  have hnull : ∀ names, (uniform names .null).Faultless := fun _ => faultless_uniform _ trivial
  have hcandid : ∀ names, (uniform names .null).Candid := fun _ _ _ => trivial
  have hst : s.equals t = .value true := by decide +kernel
  have htu : t.equals u = .value true := by decide +kernel
  have hab : a.equals b = .value true := by decide +kernel
  have hbc : b.equals c = .value true := by decide +kernel
  have hac : a.equals c ≠ .value true := by decide +kernel
  obtain ⟨-, htrans⟩ := equals_trans_iff_not_gap (hnull ["x"]) (hnull ["x", "y"])
  obtain ⟨-, hgap⟩ := equals_trans_iff_not_gap (faultless_uniform ["x"] (v := .int 1) trivial)
    (faultless_reticent [("x", 1), ("y", 2)])
  refine ⟨hst, htu, ?_, ?_⟩
  · exact (htrans u (hnull ["y"]) hst htu).2 (hcandid _) (hcandid _) (hcandid _)
  · have hiff := (hgap c (faultless_uniform ["y"] trivial) hab hbc).1
    exact Classical.byContradiction fun hno => hac (hiff.mpr hno)

end State

end RuleMatching
