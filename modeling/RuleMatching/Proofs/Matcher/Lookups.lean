import RuleMatching.Proofs.Evaluation.Lookups
import RuleMatching.Proofs.Matcher.Session

/-!
What a session leaves in memory.  A question asks for expressions and for patterns: one that is looked
up by itself, or those of the rules that are run for it.  A question leaves just these in memory,
`Matcher.ask_fst`, and a session all that its questions have asked for.  So each text has been read once
after a session, however often it was asked for, and what was read stays in memory:
`Matcher.memories_after`.
-/

set_option autoImplicit false
set_option relaxedAutoImplicit false

namespace RuleMatching

/-- A rule that is run on two states, in a mode or else in that of the matcher. -/
structure RuleRun where
  mode : Option Mode
  rule : Rule
  state1 : Option State
  state2 : Option State

namespace RuleRun

/-- The patterns that are looked up in running a rule. -/
def patterns (ctx : Context) (mode : Mode) (x : RuleRun) : List String :=
  ctx.patternsLookedUp x.state1 x.state2
    ((ctx.answering x.state1 x.state2).clausesTested (x.mode.getD mode) x.rule)

/-- A rule is run in an evaluation if it is for the states. -/
def ofEvaluation (r : Rule) (state1 state2 : Option State) : List RuleRun :=
  if r.isFor state1 state2 = .value true then [⟨none, r, state1, state2⟩] else []

end RuleRun

namespace Question

/-- The rules that are run for a question, in order. -/
def runs : Question → List RuleRun
  | .run mode r s1 s2 => [⟨some mode, r, s1, s2⟩]
  | .evaluation r s1 s2 | .isMatch r s1 s2 | .captures r s1 s2 => RuleRun.ofEvaluation r s1 s2
  | .allMatching _ rules s1 s2 | .allTags _ rules s1 s2 | .allCaptures _ rules s1 s2 =>
      rules.flatMap fun r => RuleRun.ofEvaluation r s1 s2
  | _ => []

/-- The texts that are looked up as expressions for a question, in order. -/
def expressions : Question → List String
  | .expression text => [text]
  | q => q.runs.filterMap (·.rule.expression)

/-- The texts that are looked up as patterns for a question, in order. -/
def patterns (ctx : Context) (mode : Mode) : Question → List String
  | .pattern text => [text]
  | .clause c s1 s2 _ => (ctx.patternLookedUp s1 s2 c).toList
  | q => q.runs.flatMap (RuleRun.patterns ctx mode)

end Question

namespace SessionStep

def expressions : SessionStep → List String
  | ask q => q.expressions
  | register _ | clearOperations => []

def patterns (ctx : Context) (mode : Mode) : SessionStep → List String
  | ask q => q.patterns ctx mode
  | register _ | clearOperations => []

/-- Registering and clearing, checking rules, following a path and bringing a state down. -/
def isPassive : SessionStep → Bool
  | register _ | clearOperations => true
  | ask (.issues _) | ask (.isValid _) | ask (.found _ _) | ask (.reduction _) => true
  | _ => false

end SessionStep

namespace Session

/-- The texts that are looked up as expressions in a session, in order. -/
def expressions (steps : Session) : List String := steps.flatMap fun s => s.2.expressions

/-- The texts that are looked up as patterns in a session that begins with extensions in force, in
order. -/
def patterns (settings : Settings) : List Extension → Session → List String
  | _, [] => []
  | xs, s :: ss =>
      s.2.patterns (Matcher.fresh settings s.1 xs).context (Matcher.fresh settings s.1 xs).mode ++
        patterns settings (s.2.inForce xs) ss

end Session

namespace Matcher

/-! ### Questions -/

/-- The matcher after texts have been looked up as expressions and as patterns. -/
def remember (m : Matcher) (expressions patterns : List String) : Matcher :=
  { m with
    expressions := m.expressions.lookUpAll expressions
    patterns := m.patterns.lookUpAll patterns }

/-- The matcher after what is looked up in running rules. -/
def rememberRuns (m : Matcher) (xs : List RuleRun) : Matcher :=
  m.remember (xs.filterMap (·.rule.expression)) (xs.flatMap (RuleRun.patterns m.context m.mode))

variable (m : Matcher)

theorem remember_remember (es es' ps ps' : List String) :
    (m.remember es ps).remember es' ps' = m.remember (es ++ es') (ps ++ ps') := by
  simp only [remember, Memo.lookUpAll_append]

theorem rememberRuns_append (xs ys : List RuleRun) :
    (m.rememberRuns xs).rememberRuns ys = m.rememberRuns (xs ++ ys) := by
  rw [rememberRuns, rememberRuns, rememberRuns, List.filterMap_append, List.flatMap_append]
  exact m.remember_remember _ _ _ _

theorem runTree_fst (mode : Mode) (r : Rule) (tree : Option Expression)
    (state1 state2 : Option State) :
    (m.runTree mode r tree state1 state2).1 = m.remember []
      (m.context.patternsLookedUp state1 state2
        ((m.context.answering state1 state2).treeTested mode r tree)) := by
  have hpatterns := @Context.testRule_fst m.context mode r state1 state2 m.patterns tree
  exact congrArg (fun patterns => ({ m with patterns := patterns } : Matcher)) hpatterns

/-- Running a rule looks up its expression, and the patterns of the clauses that are tested. -/
theorem run_fst (x : RuleRun) :
    (m.run (x.mode.getD m.mode) x.rule x.state1 x.state2).1 = m.rememberRuns [x] := by
  have hruns : m.rememberRuns [x] =
      m.remember x.rule.expression.toList (x.patterns m.context m.mode) := by
    rw [rememberRuns, List.flatMap_singleton]
    cases htext : x.rule.expression with
    | none => rw [List.filterMap_cons, htext]; rfl
    | some text => rw [List.filterMap_cons, htext]; rfl
  rw [hruns, run, RuleRun.patterns, Answering.clausesTested, Answering.ruleSteps]
  cases x.rule.expression with
  | none => exact m.runTree_fst _ _ _ _ _
  | some text =>
    simp only [lookUpExpression, Memo.lookUp_snd]
    cases Expression.read text with
    | error f => rfl
    | ok tree => exact runTree_fst _ _ _ _ _ _

/-- Evaluating a rule leaves what running it does, if it is for the states, and else nothing. -/
theorem evaluate_fst (r : Rule) (state1 state2 : Option State) :
    (m.evaluate r state1 state2).1 = m.rememberRuns (RuleRun.ofEvaluation r state1 state2) := by
  rw [evaluate, RuleRun.ofEvaluation]
  cases r.isFor state1 state2 with
  | fault => rfl
  | value isFor =>
    cases isFor with
    | false => rfl
    | true =>
      rw [if_pos rfl, ← m.run_fst ⟨none, r, state1, state2⟩, Option.getD_none]
      rcases m.run m.mode r state1 state2 with ⟨m', err | ev⟩ <;> rfl

section

variable {α : Type} {evaluate : Matcher → Rule → Matcher × Option α} {state1 state2 : Option State}
  (h : ∀ m r, (evaluate m r).1 = m.rememberRuns (RuleRun.ofEvaluation r state1 state2))
include h

theorem evaluateShare_fst (rules : List PlacedRule) :
    (evaluateShare (always evaluate) m rules).1 =
      m.rememberRuns (rules.flatMap fun p => RuleRun.ofEvaluation p.2 state1 state2) := by
  induction rules generalizing m with
  | nil => rfl
  | cons p ps ih =>
    rw [evaluateShare, List.flatMap_cons, ← rememberRuns_append, ← h m p.2]
    exact ih _

theorem evaluateShares_fst (shares : List (List PlacedRule)) :
    (evaluateShares (always evaluate) m shares).1 =
      m.rememberRuns (shares.flatten.flatMap fun p => RuleRun.ofEvaluation p.2 state1 state2) := by
  induction shares generalizing m with
  | nil => rfl
  | cons s ss ih =>
    rw [evaluateShares, List.flatten_cons, List.flatMap_append, ← rememberRuns_append,
      ← m.evaluateShare_fst h s]
    exact ih _

/-- Many rules leave in memory what each of them does. -/
theorem evaluateEach_fst (available : Nat) (rules : List Rule) :
    (evaluateEach evaluate available m rules).1 =
      m.rememberRuns (rules.flatMap fun r => RuleRun.ofEvaluation r state1 state2) := by
  have hrules : (placed rules).map (·.2) = rules := by
    rw [placed, List.map_map]
    exact List.zipIdx_map_fst 0 rules
  have hplaced : (placed rules).flatMap (fun p => RuleRun.ofEvaluation p.2 state1 state2) =
      rules.flatMap fun r => RuleRun.ofEvaluation r state1 state2 := by
    conv_rhs => rw [← hrules]
    exact (List.flatMap_map (fun p : PlacedRule => p.2)
      (fun r => RuleRun.ofEvaluation r state1 state2) (placed rules)).symm
  rw [← hplaced]
  change (evaluateAll (always evaluate) available m rules).1 = _
  rw [evaluateAll]
  split
  · exact m.evaluateShare_fst h (placed rules)
  · have hshares :=
      m.evaluateShares_fst h (shares (m.settings.workerCount available) (placed rules))
    rwa [flatten_shares] at hshares

end

/-- A question leaves in memory just what is looked up for it. -/
theorem ask_fst (q : Question) :
    (m.ask q).1 = m.remember q.expressions (q.patterns m.context m.mode) := by
  cases q with
  | clause c s1 s2 before =>
    have hpatterns := @Context.answerClause_fst m.context s1 s2 m.patterns c before
    exact congrArg (fun patterns => ({ m with patterns := patterns } : Matcher)) hpatterns
  | run mode r s1 s2 => exact m.run_fst ⟨some mode, r, s1, s2⟩
  | evaluation r s1 s2 => exact m.evaluate_fst r s1 s2
  | isMatch r s1 s2 => exact m.evaluate_fst r s1 s2
  | captures r s1 s2 => exact m.evaluate_fst r s1 s2
  | allMatching available rules s1 s2 =>
    exact m.evaluateEach_fst (fun m r => m.evaluate_fst r s1 s2) available rules
  | allTags available rules s1 s2 =>
    exact m.evaluateEach_fst (fun m r => m.evaluate_fst r s1 s2) available rules
  | allCaptures available rules s1 s2 =>
    exact m.evaluateEach_fst (fun m r => m.evaluate_fst r s1 s2) available rules
  | issues rules => rfl
  | isValid r => rfl
  | expression text => rfl
  | pattern text => rfl
  | found path s => rfl
  | reduction s => rfl

/-! ### Sessions -/

/-- What a matcher remembers is what has been looked up. -/
structure Remembers (m : Matcher) (expressions patterns : List String) : Prop where
  expressions : m.expressions.Exact expressions
  patterns : m.patterns.Exact patterns

/-- A matcher remembers all that another does. -/
structure RemembersMore (m m' : Matcher) : Prop where
  expressions : m.expressions.Grows m'.expressions
  patterns : m.patterns.Grows m'.patterns

/-- Two matchers have the same in their memories. -/
structure RemembersSame (m m' : Matcher) : Prop where
  expressions : m'.expressions = m.expressions
  patterns : m'.patterns.entries = m.patterns.entries
  computed : m'.patterns.computed = m.patterns.computed

variable {m} {m' m'' : Matcher} {es ps : List String}

theorem RemembersMore.refl (m : Matcher) : m.RemembersMore m := ⟨.refl _, .refl _⟩

theorem RemembersMore.trans (h : m.RemembersMore m') (h' : m'.RemembersMore m'') :
    m.RemembersMore m'' :=
  ⟨h.expressions.trans h'.expressions, h.patterns.trans h'.patterns⟩

theorem take_ask_fst (m : Matcher) (q : Question) :
    (m.take (.ask q)).1 = m.remember q.expressions (q.patterns m.context m.mode) := m.ask_fst q

theorem remembers_withSettings (settings : Settings) (start : Instant) :
    (withSettings settings start).Remembers [] [] := ⟨Memo.exact_empty, Memo.exact_empty⟩

/-- A step adds what is looked up in it to what has been looked up. -/
theorem Remembers.take (h : m.Remembers es ps) (s : SessionStep) :
    (m.take s).1.Remembers (es ++ s.expressions) (ps ++ s.patterns m.context m.mode) := by
  cases s with
  | register x =>
    rw [SessionStep.expressions, SessionStep.patterns, List.append_nil, List.append_nil]
    exact ⟨h.expressions, h.patterns⟩
  | clearOperations =>
    rw [SessionStep.expressions, SessionStep.patterns, List.append_nil, List.append_nil]
    exact ⟨h.expressions, h.patterns⟩
  | ask q =>
    rw [take_ask_fst]
    exact ⟨h.expressions.lookUpAll _, h.patterns.lookUpAll _⟩

theorem Remembers.after (h : m.Remembers es ps) {settings : Settings} {xs : List Extension}
    (hhas : m.Has settings xs) (steps : Session) :
    (m.after steps).Remembers (es ++ Session.expressions steps)
      (ps ++ Session.patterns settings xs steps) := by
  -- What a step looks up depends on the extensions in force, so the induction is over all of them.
  induction steps generalizing m es ps xs with
  | nil =>
    rw [Session.expressions, Session.patterns, List.flatMap_nil, List.append_nil, List.append_nil]
    exact h
  | cons s ss ih =>
    have hnow : (m.atTime s.1).Has settings xs := hhas.atTime s.1
    have hstep := Remembers.take (m := m.atTime s.1) ⟨h.expressions, h.patterns⟩ s.2
    have hfresh := hnow.eqUpToMemory_fresh
    rw [hfresh.context, hfresh.mode] at hstep
    have hrest := ih hstep (hnow.take s.2)
    rwa [List.append_assoc, List.append_assoc] at hrest

/-- In a step nothing is forgotten. -/
theorem remembersMore_take (m : Matcher) (s : SessionStep) : m.RemembersMore (m.take s).1 := by
  cases s with
  | register x => exact ⟨.refl _, .refl _⟩
  | clearOperations => exact ⟨.refl _, .refl _⟩
  | ask q =>
    rw [take_ask_fst]
    exact ⟨m.expressions.grows_lookUpAll _, m.patterns.grows_lookUpAll _⟩

theorem remembersMore_after (m : Matcher) (steps : Session) : m.RemembersMore (m.after steps) := by
  induction steps generalizing m with
  | nil => exact .refl m
  | cons s ss ih =>
    obtain ⟨hexpressions, hpatterns⟩ := remembersMore_take (m.atTime s.1) s.2
    exact RemembersMore.trans ⟨hexpressions, hpatterns⟩ (ih _)

theorem remembersSame_take (m : Matcher) {s : SessionStep} (hpassive : s.isPassive = true) :
    m.RemembersSame (m.take s).1 := by
  cases s with
  | register x => exact ⟨rfl, rfl, rfl⟩
  | clearOperations => exact ⟨rfl, rfl, rfl⟩
  | ask q =>
    cases q
    case issues | isValid | found | reduction => exact ⟨rfl, rfl, rfl⟩
    all_goals cases hpassive

theorem after_append (m : Matcher) (steps steps' : Session) :
    m.after (steps ++ steps') = (m.after steps).after steps' := by
  induction steps generalizing m with
  | nil => rfl
  | cons s ss ih => exact ih _

/-- The matcher after one step more. -/
theorem after_take_succ (m : Matcher) {steps : Session} {n : Nat} {t : Instant} {s : SessionStep}
    (h : steps[n]? = some (t, s)) :
    m.after (steps.take (n + 1)) = (((m.after (steps.take n)).atTime t).take s).1 := by
  rw [List.take_add_one, h, Option.toList_some, after_append]
  rfl

/-- After a session just the texts are known as expressions and as patterns that were looked up in it,
each read once, whether it is an expression or a pattern or none.  As the session goes on nothing is
forgotten or changed, and the numbers of texts read do not decrease.  They stay as they are, with all
that is known, when an extension is registered or the operations are cleared, a rule is checked, a path
is followed, or a state is brought down. -/
theorem memories_after (settings : Settings) (start : Instant) (steps : Session) :
    let m := withSettings settings start
    let texts := Session.expressions steps
    let patterns := Session.patterns settings [] steps
    ((m.after steps).expressions.computed = texts.toFinset.card ∧
      (m.after steps).expressions.size = texts.toFinset.card ∧
      ∀ text, (m.after steps).expressions.find? text =
        if text ∈ texts then some (Expression.read text) else none) ∧
    ((m.after steps).patterns.computed = (m.after steps).patterns.size ∧
      (m.after steps).patterns.size = patterns.toFinset.card ∧
      ∀ text, (m.after steps).patterns.find? text =
        if text ∈ patterns then some (Pattern.ofText? settings.sizeLimit text) else none) ∧
    (∀ n, (m.after (steps.take n)).RemembersMore (m.after steps)) ∧
    ∀ n t s, steps[n]? = some (t, s) → s.isPassive = true →
      (m.after (steps.take n)).RemembersSame (m.after (steps.take (n + 1))) := by
  intro m texts patterns
  have hstart : m.Has settings [] := ⟨rfl, rfl⟩
  have hsettings : (m.after steps).settings = settings := (hstart.after steps).settings
  obtain ⟨hexpressions, hpatterns⟩ : (m.after steps).Remembers texts patterns :=
    (remembers_withSettings settings start).after hstart steps
  refine ⟨⟨?_, hexpressions.size_eq, hexpressions.find?_eq⟩,
    ⟨hpatterns.computed_eq, hpatterns.size_eq, ?_⟩, ?_, ?_⟩
  · rw [hexpressions.computed_eq, hexpressions.size_eq]
  · intro text
    rw [hpatterns.find?_eq, hsettings]
  · intro n
    have hrest := remembersMore_after (m.after (steps.take n)) (steps.drop n)
    rwa [← after_append, List.take_append_drop] at hrest
  · intro n t s hstep hpassive
    obtain ⟨hexpressions, hpatterns, hcomputed⟩ :=
      remembersSame_take ((m.after (steps.take n)).atTime t) hpassive
    rw [m.after_take_succ hstep]
    exact ⟨hexpressions, hpatterns, hcomputed⟩

private def openGroup : Clause := (Clause.ofOperation .regex).withData ["ab", "(c"]

private def nullFirst : Rule :=
  ((Rule.named "n" "null first").withClause (.ofOperation .isNull)).withClause
    ((Clause.ofOperation .regex).withData ["z"])

private def openEnded : Rule := nullFirst.withExpression "1 AND"

/-- What is no pattern and what is no expression are read once each, and the pattern of a clause behind
one that does not apply is not read at all. -/
theorem memories_after_of_repeats :
    let t : Instant := ⟨0, 0, by decide⟩
    let s := some (State.text "abc")
    let steps : Session :=
      [(t, .ask (.clause openGroup s none [])), (t, .ask (.isMatch nullFirst s none)),
        (t, .ask (.clause openGroup.flipped none s [])), (t, .ask (.evaluation openEnded s none)),
        (t, .ask (.isValid openEnded)), (t, .ask (.expression "1 AND")), (t, .ask (.pattern "b+"))]
    let m := (withSettings .default t).after steps
    m.expressions.computed = 1 ∧ m.patterns.computed = 2 ∧ m.patterns.find? "z" = none ∧
      m.patterns.find? "ab|(c" = some none ∧
      ((withSettings .default t).after (steps.take 4)).RemembersSame
        ((withSettings .default t).after (steps.take 5)) := by
  intro t s steps m
  obtain ⟨⟨hexpressions, -⟩, ⟨hcomputed, hpatterns, hknown⟩, -, hpassive⟩ :=
    memories_after .default t steps
  have htexts : Session.expressions steps = ["1 AND", "1 AND"] := by decide +kernel
  have hunread : Pattern.ofText? Settings.default.sizeLimit "ab|(c" = none :=
    Option.isNone_iff_eq_none.mp (by decide +kernel)
  have hasked : Session.patterns .default [] steps = ["ab|(c", "ab|(c", "b+"] := by decide +kernel
  rw [htexts] at hexpressions
  rw [hasked] at hpatterns hknown
  refine ⟨hexpressions, hcomputed.trans hpatterns, ?_, ?_, hpassive 4 t _ rfl rfl⟩
  · exact (hknown "z").trans (if_neg (by decide))
  · rw [hknown "ab|(c", if_pos (by decide), hunread]

end Matcher

end RuleMatching
