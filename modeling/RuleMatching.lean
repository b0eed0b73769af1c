import RuleMatching.Matcher.Batch
import RuleMatching.Matcher.Issues
import RuleMatching.Json.Reader
import RuleMatching.Json.Text
import RuleMatching.Rule.Document
import RuleMatching.Settings.Environment
import RuleMatching.Proofs.Expression.Grammar
import RuleMatching.Proofs.Expression.Lexing
import RuleMatching.Proofs.Expression.Tree
import RuleMatching.Proofs.Expression.Reading
import RuleMatching.Proofs.Lint.Walk
import RuleMatching.Proofs.Evaluation.Derivation
import RuleMatching.Proofs.Evaluation.Run
import RuleMatching.Proofs.Rule.Label
import RuleMatching.Proofs.Lint.Concern
import RuleMatching.Proofs.Lint.Agreement
import RuleMatching.Proofs.Evaluation.ShortCircuit
import RuleMatching.Proofs.Evaluation.Meaning
import RuleMatching.Proofs.Evaluation.Captures
import RuleMatching.Proofs.Lint.Coverage
import RuleMatching.Proofs.State.Faultless
import RuleMatching.Proofs.Judgement.Decision
import RuleMatching.Proofs.Evaluation.Polarity
import RuleMatching.Proofs.Lint.Operand
import RuleMatching.Proofs.State.Place
import RuleMatching.Proofs.State.Comparison
import RuleMatching.Proofs.Evaluation.Answering
import RuleMatching.Proofs.Expression.Conjunction
import RuleMatching.Proofs.Matcher.Memory
import RuleMatching.Proofs.Matcher.Batch
import RuleMatching.Proofs.Matcher.Containment
import RuleMatching.Proofs.Matcher.Session
import RuleMatching.Proofs.Evaluation.Conjunction
import RuleMatching.Proofs.Evaluation.Verdict
import RuleMatching.Proofs.Rule.Document
import RuleMatching.Proofs.Evaluation.CaptureFlag
import RuleMatching.Proofs.Expression.Flaw
import RuleMatching.Proofs.Lint.Diagnosis
import RuleMatching.Proofs.State.Limit
import RuleMatching.Proofs.State.Transitivity
import RuleMatching.Proofs.Evaluation.Keys
import RuleMatching.Proofs.Lint.UsableLabel
import RuleMatching.Proofs.State.Navigation
import RuleMatching.Proofs.Evaluation.Pairs
import RuleMatching.Proofs.State.Composition
import RuleMatching.Proofs.Matcher.Registration
import RuleMatching.Proofs.State.Mirror
import RuleMatching.Proofs.State.Structure
import RuleMatching.Proofs.Judgement.Operand
import RuleMatching.Proofs.Evaluation.Entries
import RuleMatching.Proofs.Evaluation.CapturedEvidence
import RuleMatching.Proofs.Text.Numeral
import RuleMatching.Proofs.Instant.Text
import RuleMatching.Proofs.Binary64.Interval
import RuleMatching.Proofs.Binary64.Text
import RuleMatching.Proofs.State.Appearance
import RuleMatching.Proofs.Pattern.Meaning
import RuleMatching.Proofs.Pattern.Occurrence
import RuleMatching.Proofs.Pattern.Ahead
import RuleMatching.Proofs.Pattern.Brackets
import RuleMatching.Proofs.Pattern.Parts
import RuleMatching.Proofs.Pattern.Reading
import RuleMatching.Proofs.Pattern.Alternatives
import RuleMatching.Proofs.Evaluation.AnyPattern
import RuleMatching.Proofs.FlagSet.Masks
import RuleMatching.Proofs.FlagSet.Display
import RuleMatching.Proofs.Evaluation.FlagTexts
import RuleMatching.Proofs.Evaluation.Order
import RuleMatching.Proofs.Evaluation.Trace
import RuleMatching.Proofs.Lint.SharedLabel
import RuleMatching.Proofs.Instant.Reading
import RuleMatching.Proofs.Evaluation.Moments
import RuleMatching.Proofs.Memo
import RuleMatching.Proofs.Evaluation.Lookups
import RuleMatching.Proofs.Matcher.Lookups
import RuleMatching.Proofs.Json.Reading
import RuleMatching.Proofs.Rule.Text
