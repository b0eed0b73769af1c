import RuleMatching.Proofs.Evaluation.Answering

/-!
What a matcher remembers.  Evaluating a rule, answering a clause and looking something up may change
the memories of a matcher, and nothing else: settings, extensions and time stay as they are.
-/

set_option autoImplicit false
set_option relaxedAutoImplicit false

namespace RuleMatching.Matcher

/-- Two matchers are the same but for what they remember. -/
structure EqUpToMemory (m m' : Matcher) : Prop where
  settings : m'.settings = m.settings
  registry : m'.registry = m.registry
  now : m'.now = m.now

namespace EqUpToMemory

variable {m m' m'' : Matcher}

theorem refl (m : Matcher) : m.EqUpToMemory m := ⟨rfl, rfl, rfl⟩

theorem trans (h : m.EqUpToMemory m') (h' : m'.EqUpToMemory m'') : m.EqUpToMemory m'' :=
  ⟨h'.settings.trans h.settings, h'.registry.trans h.registry, h'.now.trans h.now⟩

theorem context (h : m.EqUpToMemory m') : m'.context = m.context := by
  rw [Matcher.context, Matcher.context, h.registry, h.now, h.settings]

theorem mode (h : m.EqUpToMemory m') : m'.mode = m.mode := by
  rw [Matcher.mode, Matcher.mode, h.settings]

end EqUpToMemory

variable (m : Matcher) (r : Rule) (state1 state2 : Option State)

theorem eqUpToMemory_run (mode : Mode) : m.EqUpToMemory (m.run mode r state1 state2).1 := by
  rw [run]
  cases r.expression with
  | none => exact ⟨rfl, rfl, rfl⟩
  | some text =>
    simp only [lookUpExpression, Memo.lookUp_snd]
    cases Expression.read text with
    | error f => exact ⟨rfl, rfl, rfl⟩
    | ok tree => exact ⟨rfl, rfl, rfl⟩

theorem eqUpToMemory_evaluate : m.EqUpToMemory (m.evaluate r state1 state2).1 := by
  have hrun := m.eqUpToMemory_run r state1 state2 m.mode
  rw [evaluate]
  split
  · rcases hresult : m.run m.mode r state1 state2 with ⟨m', err | ev⟩
    · simpa only [hresult] using hrun
    · simpa only [hresult] using hrun
  · exact .refl m

end RuleMatching.Matcher
