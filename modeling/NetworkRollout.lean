import NetworkRollout.Apply.Applier
import NetworkRollout.Apply.Plan
import NetworkRollout.Apply.Stamp
import NetworkRollout.Bootstrap.Bootstrap
import NetworkRollout.Bootstrap.Prepare
import NetworkRollout.Bootstrap.Scripted
import NetworkRollout.Bootstrap.Snapshot
import NetworkRollout.Bootstrap.Surroundings
import NetworkRollout.Cluster.Modes
import NetworkRollout.Cluster.Names
import NetworkRollout.CommandLine.Arguments
import NetworkRollout.CommandLine.Outcome
import NetworkRollout.CommandLine.Setting
import NetworkRollout.Failure
import NetworkRollout.Flow.Duration
import NetworkRollout.Flow.Settings
import NetworkRollout.Json.LayOver
import NetworkRollout.Json.MergePatch
import NetworkRollout.Json.Printer
import NetworkRollout.Json.Reader
import NetworkRollout.Json.Record
import NetworkRollout.Json.Value
import NetworkRollout.Log.Filter
import NetworkRollout.Log.Level
import NetworkRollout.Log.Record
import NetworkRollout.Main
import NetworkRollout.Manifest.Directory
import NetworkRollout.Manifest.Variables
import NetworkRollout.Membership.Deadline
import NetworkRollout.Membership.Discovery
import NetworkRollout.Membership.Initiator
import NetworkRollout.Membership.InstallConfig
import NetworkRollout.Number.Binary64
import NetworkRollout.Number.Cut
import NetworkRollout.Number.Power
import NetworkRollout.Number.Shortest
import NetworkRollout.Object.Documents
import NetworkRollout.Object.Leaf
import NetworkRollout.Object.Metadata
import NetworkRollout.Object.Object
import NetworkRollout.Proofs.Apply.Applier
import NetworkRollout.Proofs.Apply.HoldBack
import NetworkRollout.Proofs.Apply.InOrder
import NetworkRollout.Proofs.Apply.LiveCopy
import NetworkRollout.Proofs.Apply.Marks
import NetworkRollout.Proofs.Apply.Refinement
import NetworkRollout.Proofs.Apply.Settlement
import NetworkRollout.Proofs.Apply.Stamp
import NetworkRollout.Proofs.Bootstrap.AppliedSpecs
import NetworkRollout.Proofs.Bootstrap.Bootstrap
import NetworkRollout.Proofs.Bootstrap.Deadlines
import NetworkRollout.Proofs.Bootstrap.EndpointLists
import NetworkRollout.Proofs.Bootstrap.ListingOrder
import NetworkRollout.Proofs.Bootstrap.LostConfig
import NetworkRollout.Proofs.Bootstrap.Prepare
import NetworkRollout.Proofs.Bootstrap.Reacceptance
import NetworkRollout.Proofs.Bootstrap.RecordedSpec
import NetworkRollout.Proofs.Bootstrap.SharedDeadlines
import NetworkRollout.Proofs.Bootstrap.Steps
import NetworkRollout.Proofs.Bootstrap.Store
import NetworkRollout.Proofs.Flow.DurationGrammar
import NetworkRollout.Proofs.Json.Distinct
import NetworkRollout.Proofs.Json.LayOver
import NetworkRollout.Proofs.Json.Literal
import NetworkRollout.Proofs.Json.MergePatch
import NetworkRollout.Proofs.Json.Record
import NetworkRollout.Proofs.Json.RepeatedPatch
import NetworkRollout.Proofs.Json.RoundTrip
import NetworkRollout.Proofs.Manifest.Loading
import NetworkRollout.Proofs.Membership.Discovery
import NetworkRollout.Proofs.Membership.Election
import NetworkRollout.Proofs.Membership.ReplicaCount
import NetworkRollout.Proofs.Membership.Timeline
import NetworkRollout.Proofs.Object.Metadata
import NetworkRollout.Proofs.Object.Reading
import NetworkRollout.Proofs.Readings
import NetworkRollout.Proofs.Reconcile.Atomicity
import NetworkRollout.Proofs.Reconcile.Course
import NetworkRollout.Proofs.Reconcile.FailedRequests
import NetworkRollout.Proofs.Reconcile.LostConfig
import NetworkRollout.Proofs.Reconcile.Preparation
import NetworkRollout.Proofs.Reconcile.RepeatedFailures
import NetworkRollout.Proofs.Reconcile.Waits
import NetworkRollout.Proofs.Reconcile.Watch
import NetworkRollout.Proofs.Release.Direction
import NetworkRollout.Proofs.Release.Precedence
import NetworkRollout.Proofs.Rollout.Convergence
import NetworkRollout.Proofs.Rollout.Decision
import NetworkRollout.Proofs.Rollout.FamilyOrder
import NetworkRollout.Proofs.Rollout.Run
import NetworkRollout.Proofs.Rollout.Staging
import NetworkRollout.Proofs.Rollout.VersionSkew
import NetworkRollout.Proofs.Server.AnnotationStore
import NetworkRollout.Proofs.Server.Effects
import NetworkRollout.Proofs.Server.Faults
import NetworkRollout.Proofs.Server.LostConfig
import NetworkRollout.Proofs.Server.Network
import NetworkRollout.Proofs.Server.Questions
import NetworkRollout.Proofs.Server.Requests
import NetworkRollout.Proofs.Server.Storing
import NetworkRollout.Proofs.Spec.ChangeSafety
import NetworkRollout.Proofs.Spec.Coherence
import NetworkRollout.Proofs.Spec.Completion
import NetworkRollout.Proofs.Spec.Defaults
import NetworkRollout.Proofs.Spec.RoundTrip
import NetworkRollout.Proofs.Status.Conditions
import NetworkRollout.Proofs.Status.MergedStatus
import NetworkRollout.Proofs.Status.Repetition
import NetworkRollout.Proofs.Status.RoundTrip
import NetworkRollout.Proofs.Status.Summary
import NetworkRollout.Proofs.Telemetry.DiscoveryMetrics
import NetworkRollout.Proofs.Template.Substitution
import NetworkRollout.Proofs.Text.ByteOrder
import NetworkRollout.Proofs.Text.Pieces
import NetworkRollout.Proofs.Tier.HungTolerance
import NetworkRollout.Proofs.Time.MomentText
import NetworkRollout.Proofs.Yaml.Comparison
import NetworkRollout.Reconcile.Pass
import NetworkRollout.Release.Change
import NetworkRollout.Release.Version
import NetworkRollout.Rollout.Decision
import NetworkRollout.Rollout.Permission
import NetworkRollout.Rollout.Prepull
import NetworkRollout.Server.Cluster
import NetworkRollout.Server.Kind
import NetworkRollout.Server.Network
import NetworkRollout.Server.Server
import NetworkRollout.Server.Storing
import NetworkRollout.Spec.ChangeSafety
import NetworkRollout.Spec.Defaults
import NetworkRollout.Spec.Json
import NetworkRollout.Spec.Network
import NetworkRollout.Spec.Validation
import NetworkRollout.Status.Json
import NetworkRollout.Status.Status
import NetworkRollout.Telemetry.Exposition
import NetworkRollout.Telemetry.Http
import NetworkRollout.Telemetry.Metrics
import NetworkRollout.Template.Expression
import NetworkRollout.Template.Lexeme
import NetworkRollout.Template.Node
import NetworkRollout.Template.Piece
import NetworkRollout.Template.Render
import NetworkRollout.Text.Address
import NetworkRollout.Text.Blank
import NetworkRollout.Text.Cut
import NetworkRollout.Text.Escape
import NetworkRollout.Text.Unsigned
import NetworkRollout.Text.Upper
import NetworkRollout.Tier.Progressing
import NetworkRollout.Tier.State
import NetworkRollout.Time.Calendar
import NetworkRollout.Time.Moment
import NetworkRollout.Yaml.Cursor
import NetworkRollout.Yaml.Fold
import NetworkRollout.Yaml.Node
import NetworkRollout.Yaml.Scalar
import NetworkRollout.Yaml.Token
import NetworkRollout.Yaml.Value
