import RuleMatching.Proofs.State.Navigation
import RuleMatching.Proofs.Text.Pieces

/-!
Paths put together.  Two paths with a full stop between make one that leads where the second leads
from where the first has led: `State.follow_append`.  Null is nothing at the end of a path, and on the
way it is still there to be asked; so no property reader may have an answer for it.
-/

set_option autoImplicit false
set_option relaxedAutoImplicit false

namespace RuleMatching.State

variable {readers : List PropertyReader}

theorem segments_append {path path' : String} (hpath : path ≠ "") (hpath' : path' ≠ "") :
    segments (path ++ "." ++ path') = segments path ++ segments path' := by
  have hboth : path ++ "." ++ path' ≠ "" := by simp
  rw [segments, segments, segments, if_neg hboth, if_neg hpath, if_neg hpath']
  exact Text.pieces_append_separator path path'

theorem segments_ne_nil {path : String} (hpath : path ≠ "") : segments path ≠ [] := by
  rw [segments, if_neg hpath, Text.pieces, ne_eq, List.map_eq_nil_iff]
  exact Text.split_ne_nil '.' path.toList

/-- A walk goes on from where its first part has led, with the same end if that is nowhere. -/
theorem walk_append (before after : List String) (s : State) :
    walk readers (before ++ after) s = (walk readers before s).andThen fun
      | some t => walk readers after t
      | none => .value none := by
  induction before generalizing s with
  | nil => rfl
  | cons p ps ih =>
    rw [List.cons_append, walk, walk]
    cases s.step readers p with
    | fault => rfl
    | value next =>
      cases next with
      | none => rfl
      | some t => exact ih t

/-- If no reader has an answer for null, then no segment leads on from there. -/
theorem walk_null (hnull : ∀ e ∈ readers, ∀ name, e null name = .value none)
    {segments : List String} (hne : segments ≠ []) : walk readers segments null = .value none := by
  obtain ⟨p, ps, rfl⟩ := List.exists_cons_of_ne_nil hne
  have hstep : null.step readers p = .value none :=
    readProperty_eq_none_iff.mpr fun e he => hnull e he p
  rw [walk, hstep, Outcome.andThen_value]

/-- If no reader has an answer for null, then two paths with a full stop between lead where the second
leads from where the first has led, and to nothing if the first leads to nothing. -/
theorem follow_append (hnull : ∀ e ∈ readers, ∀ name, e null name = .value none)
    {path path' : String} (hpath : path ≠ "") (hpath' : path' ≠ "") (s : State) :
    s.follow readers (path ++ "." ++ path') = (s.follow readers path).andThen fun
      | some t => t.follow readers path'
      | none => .value none := by
  rw [follow, follow, segments_append hpath hpath', walk_append]
  cases walk readers (segments path) s with
  | fault => rfl
  | value found =>
    cases found with
    | none => rfl
    | some t =>
      cases hnothing : t.isNull with
      | false =>
        simp only [Outcome.andThen_value, Option.filter_some, hnothing, Bool.not_false, if_true]
        rfl
      | true =>
        -- The first path alone has come to nothing here, and both together do so one segment later.
        obtain rfl : t = null := by cases t <;> simp_all [isNull]
        simp only [Outcome.andThen_value, walk_null hnull (segments_ne_nil hpath')]
        rfl

/-- Gives a list of just the state as its property `wrap`, but nothing for null. -/
private def wrappingReader : PropertyReader := fun s name =>
  .value (if name = "wrap" ∧ s.isNull = false then some (ofItems [s]) else none)

/-- A path goes on below a list that a reader has made up, and comes to nothing below null. -/
theorem follow_append_of_wrapped :
    let user := ofFields "User" [("manager", null), ("name", text "alice")]
    let s := ofEntries [("users", ofItems [user])]
    (∀ e ∈ [wrappingReader], ∀ name, e null name = .value none) ∧
      s.follow [wrappingReader] ("users.0.wrap" ++ "." ++ "0.name") = .value (some (text "alice")) ∧
      s.follow [wrappingReader] ("users.0.manager" ++ "." ++ "wrap") = .value none := by
  intro user s
  have hnull : ∀ e ∈ [wrappingReader], ∀ name, e null name = .value none := by
    intro e he name
    obtain rfl := List.mem_singleton.mp he
    simp [wrappingReader, isNull]
  refine ⟨hnull, ?_, ?_⟩
  · rw [follow_append hnull (by decide) (by decide)]
    rfl
  · rw [follow_append hnull (by decide) (by decide)]
    rfl

end RuleMatching.State
