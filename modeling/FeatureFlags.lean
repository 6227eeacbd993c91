import FeatureFlags.Json.Literal
import FeatureFlags.Json.Text
import FeatureFlags.Context.Kind
import FeatureFlags.Attribute.Reference
import FeatureFlags.Version
import FeatureFlags.Instant
import FeatureFlags.Pattern.Matcher
import FeatureFlags.Digest.Sha1
import FeatureFlags.Warning
import FeatureFlags.Attribute.Value
import FeatureFlags.Context.Json
import FeatureFlags.Flag.Value
import FeatureFlags.Evaluation.Detail
import FeatureFlags.Rollout.Outcome
import FeatureFlags.Segment.Basic
import FeatureFlags.Flag.Basic
import FeatureFlags.Evaluation.Basic
import FeatureFlags.Proofs.Step.Congruence
import FeatureFlags.Proofs.Step.Invariant
import FeatureFlags.Proofs.Step.Nested
import FeatureFlags.Proofs.Nesting.Depth
import FeatureFlags.Proofs.Nesting.Cycles
import FeatureFlags.Proofs.Nesting.Unguarded
import FeatureFlags.Proofs.Nesting.Termination
import FeatureFlags.Proofs.Step.Isolation
import FeatureFlags.Proofs.Step.Growth
import FeatureFlags.Proofs.Detail.Answer
import FeatureFlags.Proofs.Detail.WellFormed
import FeatureFlags.Proofs.Prerequisites.Gating
import FeatureFlags.Proofs.Failure.Interruption
import FeatureFlags.Proofs.Decision.Merging
import FeatureFlags.Proofs.Decision.FirstMatch
import FeatureFlags.Proofs.Decision.Selection
import FeatureFlags.Proofs.BigSegment.Anew
import FeatureFlags.Proofs.BigSegment.Account
import FeatureFlags.Proofs.Store.Locality
import FeatureFlags.Proofs.Prerequisites.Records
import FeatureFlags.Proofs.Prerequisites.Malformed
import FeatureFlags.Proofs.Json.Fields
import FeatureFlags.Proofs.Context.Builder
import FeatureFlags.Proofs.Context.Reading
import FeatureFlags.Proofs.Context.Combination
import FeatureFlags.Proofs.Context.Forms
import FeatureFlags.Proofs.Context.Grammar
import FeatureFlags.Proofs.Context.WellFormed
import FeatureFlags.Proofs.Attribute.Finite
import FeatureFlags.Proofs.Context.RoundTrip
import FeatureFlags.Proofs.Context.Indifference
import FeatureFlags.Proofs.Context.Unmentioned
import FeatureFlags.Proofs.Store.Convergence
import FeatureFlags.Proofs.Rollout.Choice
import FeatureFlags.Proofs.Rollout.Experiment
import FeatureFlags.Proofs.Number.Rounding
import FeatureFlags.Proofs.Rollout.Range
import FeatureFlags.Proofs.Step.Counterpart
import FeatureFlags.Proofs.Rollout.Independence
import FeatureFlags.Proofs.Number.Arithmetic
import FeatureFlags.Proofs.Rollout.Weight
import FeatureFlags.Proofs.Rollout.Usable
import FeatureFlags.Proofs.Segment.RampUp
import FeatureFlags.Proofs.Segment.Mode
import FeatureFlags.Proofs.Attribute.Escaping
import FeatureFlags.Proofs.Rule.Negation
import FeatureFlags.Proofs.Decision.Targets
import FeatureFlags.Proofs.Step.Parallel
import FeatureFlags.Proofs.Step.Agreement
import FeatureFlags.Proofs.Rule.Rearrangement
import FeatureFlags.Proofs.Rule.Order
import FeatureFlags.Proofs.Context.Addressing
import FeatureFlags.Proofs.Detail.Default
import FeatureFlags.Proofs.Context.Writes
import FeatureFlags.Proofs.Context.Regrouping
import FeatureFlags.Proofs.Version.Grammar
import FeatureFlags.Proofs.Version.Loose
import FeatureFlags.Proofs.Rule.Coherence
import FeatureFlags.Proofs.Json.Readers
import FeatureFlags.Proofs.Rollout.Form
import FeatureFlags.Proofs.Nesting.Restoration
import FeatureFlags.Proofs.Nesting.Entrances
