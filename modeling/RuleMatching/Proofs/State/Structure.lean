import RuleMatching.Proofs.State.Transitivity

/-!
Equality of states whose objects are all records.  Two states are alike if they are built in the
same way, where an entry that is null is not the same as none, but a field that is null is as good
as none.  A comparison finds no difference between two states just if they are alike, `Alike.same`
and `Same.alike`, and a state is like itself just if it holds no NaN, `alike_self` and
`HasNaN.not_alike`.
-/

set_option autoImplicit false
set_option relaxedAutoImplicit false

namespace RuleMatching.State

/-- All objects in a state are records. -/
def OnlyRecords : State → Prop
  | list size item => ∀ i, i < size → (item i).OnlyRecords
  | map keys entry => ∀ k, k ∈ keys → (entry k).OnlyRecords
  | record _ names field => ∀ n, n ∈ names → (field n).OnlyRecords
  | foreign _ _ _ _ _ => False
  | _ => True

/-- A NaN lies somewhere in a state, as far down as it can be read. -/
inductive HasNaN : State → Prop
  | here {x : Binary64} (hx : x.isNaN = true) : HasNaN (float x)
  | item {size : Nat} {item : Nat → State} {i : Nat} (hi : i < size) (h : HasNaN (item i)) :
      HasNaN (list size item)
  | entry {keys : NameSet} {entry : String → State} {k : String} (hk : k ∈ keys)
      (h : HasNaN (entry k)) : HasNaN (map keys entry)
  | field {kind : String} {names : NameSet} {field : String → State} {n : String} (hn : n ∈ names)
      (h : HasNaN (field n)) : HasNaN (record kind names field)
  | foreignField {kind : Outcome String} {names : Outcome (List String)} {shown : Outcome String}
      {reading : String → FieldReading} {field : String → State} {n : String}
      (hn : reading n = .present) (h : HasNaN (field n)) :
      HasNaN (foreign kind names shown reading field)

/-- Two states are built in the same way.  Numbers are compared as such, flag sets by their kind and
their bits, and records field by field, with null for a field that one of them does not have. -/
inductive Alike : State → State → Prop
  | null : Alike null null
  | bool (b : Bool) : Alike (bool b) (bool b)
  | int (i : Int64) : Alike (int i) (int i)
  | float {x y : Binary64} (h : x.equals y = true) : Alike (float x) (float y)
  | text (s : String) : Alike (text s) (text s)
  | instant (t : Instant) : Alike (instant t) (instant t)
  | flags {f g : FlagSet} (hkind : f.kind = g.kind) (hbits : f.bits = g.bits) :
      Alike (flags f) (flags g)
  | list {size : Nat} {a b : Nat → State} (h : ∀ i, i < size → Alike (a i) (b i)) :
      Alike (list size a) (list size b)
  | map {ks ls : NameSet} {a b : String → State} (hkeys : ∀ k, k ∈ ks ↔ k ∈ ls)
      (h : ∀ k, k ∈ ks → Alike (a k) (b k)) : Alike (map ks a) (map ls b)
  | pairs (entries : List (String × String)) : Alike (pairs entries) (pairs entries)
  | record {kind : String} {ns ms : NameSet} {f g : String → State}
      (h : ∀ n, n ∈ ns ∨ n ∈ ms →
        Alike ((recordField? ns f n).getD .null) ((recordField? ms g n).getD .null)) :
      Alike (record kind ns f) (record kind ms g)

variable {s t : State}

theorem OnlyRecords.faultless (hs : s.OnlyRecords) : s.Faultless := by
  induction s with
  | list size item ih => exact fun i hi => ih i (hs i hi)
  | map keys entry ih => exact fun k hk => ih k (hs k hk)
  | record kind names field ih => exact fun n hn => ih n (hs n hn)
  | foreign kind names text reading field ih => exact hs.elim
  | _ => trivial

theorem recordField?_of_mem {names : NameSet} {field : String → State} {n : String}
    (hn : n ∈ names) : recordField? names field n = some (field n) :=
  mem_recordField?_iff.mpr ⟨hn, rfl⟩

theorem OnlyRecords.field {kind : String} {names : NameSet} {field : String → State}
    (hs : (record kind names field).OnlyRecords) (n : String) :
    ((recordField? names field n).getD null).OnlyRecords := by
  cases hfield : recordField? names field n with
  | none => trivial
  | some v =>
    obtain ⟨hn, rfl⟩ := mem_recordField?_iff.mp hfield
    exact hs n hn

/-! ### Alike states -/

/-- Two records are equal just if they are of one kind and have equal fields under each name that
one of them has, where a missing field counts as null. -/
theorem same_record_iff {k l : String} {ns ms : NameSet} {f g : String → State} :
    (record k ns f).Same (record l ms g) ↔ k = l ∧ ∀ n, n ∈ ns ∨ n ∈ ms →
      ((recordField? ns f n).getD null).Same ((recordField? ms g n).getD null) := by
  rw [same_iff "", events_record]
  by_cases hkind : k = l
  · simp only [hkind, if_true, true_and, List.flatMap_eq_nil_iff, NameSet.mem_names,
      NameSet.mem_union, ← same_iff]
  · simp [hkind]

/-- No difference is found between states that are alike. -/
theorem Alike.same (h : s.Alike t) : s.Same t := by
  induction h with
  | null => rfl
  | float hequals => exact (same_iff_sameScalar rfl).mpr hequals
  | flags hkind hbits =>
    refine (same_iff_sameScalar rfl).mpr ?_
    simp [sameScalar, FlagSet.same, hkind, hbits]
  | list _ ih => exact same_list_iff.mpr ⟨rfl, ih⟩
  | map hkeys _ ih => exact same_map_iff.mpr fun k => ⟨hkeys k, ih k⟩
  | pairs entries => exact same_pairs_iff.mpr rfl
  | record _ ih => exact same_record_iff.mpr ⟨rfl, ih⟩
  | _ => exact (same_iff_sameScalar rfl).mpr (by simp [sameScalar])

theorem alike_of_sameScalar (h : sameScalar s t = true) : s.Alike t := by
  cases s <;> cases t <;> simp only [sameScalar, Bool.false_eq_true] at h
  case null.null => exact .null
  case float.float => exact .float h
  case flags.flags f g =>
    rw [FlagSet.same, Bool.and_eq_true, beq_iff_eq, beq_iff_eq] at h
    exact .flags h.1 h.2
  all_goals
    rw [beq_iff_eq] at h
    subst h
    constructor

/-- States whose objects are all records are alike if no difference is found between them. -/
theorem Same.alike (h : s.Same t) (hs : s.OnlyRecords) (ht : t.OnlyRecords) : s.Alike t := by
  -- States that are not both lists, or maps, or pairs, or objects, differ as a whole.
  induction s generalizing t with
  | list m a ih =>
    cases t with
    | list n b =>
      obtain ⟨rfl, hitems⟩ := same_list_iff.mp h
      exact .list fun i hi => ih i (hitems i hi) (hs i hi) (ht i hi)
    | _ => simp [same_iff "", events, sameScalar] at h
  | map ks a ih =>
    cases t with
    | map ls b =>
      rw [same_map_iff] at h
      refine .map (fun k => (h k).1) fun k hk => ?_
      exact ih k ((h k).2 hk) (hs k hk) (ht k ((h k).1.mp hk))
    | _ => simp [same_iff "", events, sameScalar] at h
  | pairs xs =>
    cases t with
    | pairs ys =>
      obtain rfl := same_pairs_iff.mp h
      exact .pairs xs
    | _ => simp [same_iff "", events, sameScalar] at h
  | record k ns f ih =>
    cases t with
    | record l ms g =>
      obtain ⟨rfl, hfields⟩ := same_record_iff.mp h
      refine .record fun n hn => ?_
      have hsame := hfields n hn
      cases hfield : recordField? ns f n with
      | none =>
        rw [hfield, Option.getD_none, same_null_iff] at hsame
        rw [hsame, Option.getD_none]
        exact .null
      | some v =>
        obtain ⟨hns, rfl⟩ := mem_recordField?_iff.mp hfield
        rw [hfield, Option.getD_some] at hsame
        exact ih n hsame (hs n hns) (ht.field n)
    | foreign kind names shown reading field => exact ht.elim
    | _ => simp [same_iff "", events, object?] at h
  | foreign kind names shown reading field ih => exact hs.elim
  | _ => exact alike_of_sameScalar ((same_iff_sameScalar rfl).mp h)

/-! ### States that are like themselves -/

theorem HasNaN.not_alike (h : s.HasNaN) : ¬s.Alike s := by
  intro halike
  induction h with
  | here hx =>
    cases halike with
    | float hequals => simp [Binary64.equals, hx] at hequals
  | item hi _ ih =>
    cases halike with
    | list hitems => exact ih (hitems _ hi)
  | entry hk _ ih =>
    cases halike with
    | map _ hentries => exact ih (hentries _ hk)
  | field hn _ ih =>
    cases halike with
    | record hfields =>
      have hfield := hfields _ (.inl hn)
      rw [recordField?_of_mem hn, Option.getD_some] at hfield
      exact ih hfield
  | foreignField => cases halike

/-- A state whose objects are all records is like itself if it holds no NaN. -/
theorem alike_self (hs : s.OnlyRecords) (hnan : ¬s.HasNaN) : s.Alike s := by
  induction s with
  | float x =>
    have hx : x.isNaN = false := Bool.eq_false_iff.mpr fun hx => hnan (.here hx)
    exact .float (by simp [Binary64.equals, hx])
  | list size item ih => exact .list fun i hi => ih i (hs i hi) fun h => hnan (.item hi h)
  | map keys entry ih =>
    exact .map (fun _ => Iff.rfl) fun k hk => ih k (hs k hk) fun h => hnan (.entry hk h)
  | record kind names field ih =>
    refine .record fun n hn => ?_
    have hn : n ∈ names := hn.elim id id
    rw [recordField?_of_mem hn, Option.getD_some]
    exact ih n (hs n hn) fun h => hnan (.field hn h)
  | flags f => exact .flags rfl rfl
  | foreign kind names shown reading field ih => exact hs.elim
  | _ => constructor

/-- A comparison of states whose objects are all records comes to a result, and if it is asked for
a difference at least, it finds none just if the states are alike.  So a state is equal to itself
just if it holds no NaN. -/
theorem compare_eq_nil_iff_alike (hs : s.OnlyRecords) (ht : t.OnlyRecords) {limit : Nat}
    (hlimit : 0 < limit) :
    (∃ ds, compare s t limit = .value ds ∧ (ds = [] ↔ s.Alike t)) ∧
    ∃ same, s.equals s = .value same ∧ (same = true ↔ ¬s.HasNaN) := by
  refine ⟨?_, ?_⟩
  · obtain ⟨ds, hds⟩ :=
      exists_firstDifferences (allDifferences_events hs.faultless ht.faultless "") limit
    refine ⟨ds, hds, ?_⟩
    rw [eq_nil_iff_of_firstDifferences hlimit hds, ← same_iff]
    exact ⟨fun h => h.alike hs ht, Alike.same⟩
  · obtain ⟨same, hsame⟩ := exists_equals hs.faultless hs.faultless
    refine ⟨same, hsame, ?_⟩
    have hself : s.Same s ↔ same = true := by
      rw [Same, hsame, Outcome.value.injEq]
    rw [← hself]
    constructor
    · exact fun h hnan => hnan.not_alike (h.alike hs hs)
    · exact fun hnan => (alike_self hs hnan).same

/-- A field that is null is as good as none, but not so an entry.  A list with a NaN in it is not
equal to itself. -/
theorem compare_eq_nil_of_null_field :
    let s := record "K" (.ofList ["x"]) fun _ => null
    let t := record "K" .empty fun _ => null
    let u := map (.ofList ["x"]) fun _ => null
    let v := map .empty fun _ => null
    let w := list 1 fun _ => float ⟨0x7FF8000000000000⟩
    (s.OnlyRecords ∧ t.OnlyRecords ∧ compare s t 3 = .value [] ∧ s.Alike t) ∧
    (u.OnlyRecords ∧ v.OnlyRecords ∧ compare u v 3 = .value [⟨"x", none, none⟩] ∧ ¬u.Alike v) ∧
    w.OnlyRecords ∧ w.HasNaN ∧ w.equals w = .value false := by
  intro s t u v w
  have hs : s.OnlyRecords := fun _ _ => trivial
  have ht : t.OnlyRecords := fun _ _ => trivial
  have hu : u.OnlyRecords := fun _ _ => trivial
  have hv : v.OnlyRecords := fun _ _ => trivial
  have hw : w.OnlyRecords := fun _ _ => trivial
  have hst : compare s t 3 = .value [] := by decide +kernel
  have huv : compare u v 3 = .value [⟨"x", none, none⟩] := by decide +kernel
  have hnan : w.HasNaN := .item Nat.zero_lt_one (.here (by decide +kernel))
  have hlimit : 0 < 3 := by decide
  obtain ⟨⟨ds, hds, hiff⟩, -⟩ := compare_eq_nil_iff_alike hs ht hlimit
  obtain ⟨⟨es, hes, hiff'⟩, -⟩ := compare_eq_nil_iff_alike hu hv hlimit
  obtain ⟨-, same, hsame, hself⟩ := compare_eq_nil_iff_alike hw hw hlimit
  obtain rfl := Outcome.value.inj (hst.symm.trans hds)
  obtain rfl := Outcome.value.inj (huv.symm.trans hes)
  refine ⟨⟨hs, ht, hst, hiff.mp rfl⟩, ⟨hu, hv, huv, fun h => ?_⟩, hw, hnan, ?_⟩
  · exact List.cons_ne_nil _ _ (hiff'.mpr h)
  · have hfalse : same = false := Bool.eq_false_iff.mpr fun h => hself.mp h hnan
    rw [hsame, hfalse]

end RuleMatching.State
