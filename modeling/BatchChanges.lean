import BatchChanges.Actor
import BatchChanges.Attempt
import BatchChanges.Backend
import BatchChanges.Campaign
import BatchChanges.Campaign.Apply
import BatchChanges.Campaign.Close
import BatchChanges.Campaign.Codec
import BatchChanges.Campaign.Error
import BatchChanges.Campaign.Mapping
import BatchChanges.Campaign.Rewire
import BatchChanges.Changeset
import BatchChanges.Changeset.Codec
import BatchChanges.Cli
import BatchChanges.Cli.Command
import BatchChanges.Clock
import BatchChanges.Document
import BatchChanges.FileTree
import BatchChanges.Host
import BatchChanges.Id
import BatchChanges.Interrupt
import BatchChanges.Json
import BatchChanges.Json.Magnitude
import BatchChanges.Json.Printer
import BatchChanges.Json.Reader
import BatchChanges.Lease
import BatchChanges.Main
import BatchChanges.Operation
import BatchChanges.Operation.Effect
import BatchChanges.Plan
import BatchChanges.Preview
import BatchChanges.Proofs.Access
import BatchChanges.Proofs.Action
import BatchChanges.Proofs.Attempt.Course
import BatchChanges.Proofs.Attempt.Draft
import BatchChanges.Proofs.Attempt.Exact
import BatchChanges.Proofs.Attempt.Facet
import BatchChanges.Proofs.Attempt.Knowledge
import BatchChanges.Proofs.Attempt.Plan
import BatchChanges.Proofs.Attempt.Remaining
import BatchChanges.Proofs.Attempt.Told
import BatchChanges.Proofs.Campaign.Accounting
import BatchChanges.Proofs.Campaign.Assignment
import BatchChanges.Proofs.Campaign.Coverage
import BatchChanges.Proofs.Campaign.Fate
import BatchChanges.Proofs.Campaign.Joining
import BatchChanges.Proofs.Campaign.Mapping
import BatchChanges.Proofs.Campaign.Members
import BatchChanges.Proofs.Campaign.Missing
import BatchChanges.Proofs.Campaign.Pairs
import BatchChanges.Proofs.Campaign.Record
import BatchChanges.Proofs.Campaign.Refusal
import BatchChanges.Proofs.Campaign.Transaction
import BatchChanges.Proofs.Codec.Calendar
import BatchChanges.Proofs.Codec.Decimal
import BatchChanges.Proofs.Codec.Fields
import BatchChanges.Proofs.Codec.JsonText
import BatchChanges.Proofs.Codec.Records
import BatchChanges.Proofs.Codec.RoundTrip
import BatchChanges.Proofs.Codec.Timestamp
import BatchChanges.Proofs.Codec.Values
import BatchChanges.Proofs.Operation
import BatchChanges.Proofs.Preview
import BatchChanges.Proofs.Queue.Confined
import BatchChanges.Proofs.Queue.Effect
import BatchChanges.Proofs.Queue.Exclusive
import BatchChanges.Proofs.Queue.History
import BatchChanges.Proofs.Queue.Upkeep
import BatchChanges.Proofs.Reconcile.Account
import BatchChanges.Proofs.Reconcile.Atomic
import BatchChanges.Proofs.Reconcile.Delay
import BatchChanges.Proofs.Reconcile.Draining
import BatchChanges.Proofs.Reconcile.Execution
import BatchChanges.Proofs.Reconcile.Undisturbed
import BatchChanges.Proofs.Retry
import BatchChanges.Proofs.Settings.Loading
import BatchChanges.Proofs.Settings.Overlay
import BatchChanges.Proofs.Store.Freshness
import BatchChanges.Proofs.Store.Numbering
import BatchChanges.Proofs.Store.Reachable
import BatchChanges.Proofs.System.Attended
import BatchChanges.Proofs.System.Branches
import BatchChanges.Proofs.System.Cancellation
import BatchChanges.Proofs.System.CloseRequest
import BatchChanges.Proofs.System.Closing
import BatchChanges.Proofs.System.Completeness
import BatchChanges.Proofs.System.Conduct
import BatchChanges.Proofs.System.Convergence
import BatchChanges.Proofs.System.Deletion
import BatchChanges.Proofs.System.Drafts
import BatchChanges.Proofs.System.Dropping
import BatchChanges.Proofs.System.Edits
import BatchChanges.Proofs.System.Failing
import BatchChanges.Proofs.System.Failures
import BatchChanges.Proofs.System.Following
import BatchChanges.Proofs.System.Grounded
import BatchChanges.Proofs.System.Hiding
import BatchChanges.Proofs.System.Identity
import BatchChanges.Proofs.System.Interleaving
import BatchChanges.Proofs.System.Isolation
import BatchChanges.Proofs.System.Joining
import BatchChanges.Proofs.System.Membership
import BatchChanges.Proofs.System.Merged
import BatchChanges.Proofs.System.OneWay
import BatchChanges.Proofs.System.Opening
import BatchChanges.Proofs.System.Overtaking
import BatchChanges.Proofs.System.Places
import BatchChanges.Proofs.System.Pursuit
import BatchChanges.Proofs.System.Quiet
import BatchChanges.Proofs.System.Readoption
import BatchChanges.Proofs.System.Reapplying
import BatchChanges.Proofs.System.Records
import BatchChanges.Proofs.System.Reopening
import BatchChanges.Proofs.System.Requeue
import BatchChanges.Proofs.System.Resting
import BatchChanges.Proofs.System.Retrying
import BatchChanges.Proofs.System.Row
import BatchChanges.Proofs.System.Sequential
import BatchChanges.Proofs.System.Sound
import BatchChanges.Proofs.System.Specs
import BatchChanges.Proofs.System.Standing
import BatchChanges.Proofs.System.Statistics
import BatchChanges.Proofs.System.Step
import BatchChanges.Proofs.System.Tracked
import BatchChanges.Proofs.System.Transition
import BatchChanges.Proofs.System.Unseen
import BatchChanges.Proofs.System.WriteBack
import BatchChanges.Proofs.Yaml.Line
import BatchChanges.Proofs.Yaml.Node
import BatchChanges.Proofs.Yaml.Numeral
import BatchChanges.Proofs.Yaml.Page
import BatchChanges.Proofs.Yaml.Phrase
import BatchChanges.Proofs.Yaml.Scalar
import BatchChanges.Proofs.Yaml.Tokens
import BatchChanges.Question
import BatchChanges.Reconcile
import BatchChanges.Reconcile.Error
import BatchChanges.Reconcile.Outcome
import BatchChanges.Request
import BatchChanges.Retry
import BatchChanges.Scenario.Answer
import BatchChanges.Scenario.Read
import BatchChanges.Scenario.Run
import BatchChanges.Scenario.Script
import BatchChanges.Scenario.Step
import BatchChanges.Settings
import BatchChanges.Settings.File
import BatchChanges.Spec
import BatchChanges.Spec.Codec
import BatchChanges.Spec.Delta
import BatchChanges.Store
import BatchChanges.Store.Error
import BatchChanges.Store.Mapping
import BatchChanges.Store.Queue
import BatchChanges.Table
import BatchChanges.Text.Blank
import BatchChanges.Text.Decimal
import BatchChanges.Text.Quoted
import BatchChanges.Text.Unassigned
import BatchChanges.Text.Unprintable
import BatchChanges.Time
import BatchChanges.Time.Calendar
import BatchChanges.Time.Text
import BatchChanges.World
import BatchChanges.Yaml
import BatchChanges.Yaml.Cursor
import BatchChanges.Yaml.Reader
import BatchChanges.Yaml.Scalar
import BatchChanges.Yaml.Token
