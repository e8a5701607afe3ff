import StagedRuns.Config.Service
import StagedRuns.Config.Watcher
import StagedRuns.Main
import StagedRuns.Pipeline.Model
import StagedRuns.Service.Router
import StagedRuns.Watch.Watcher
import StagedRuns.Watch.Subscription
import StagedRuns.Proofs.Plan.Success
import StagedRuns.Proofs.Plan.Layers
import StagedRuns.Proofs.Plan.Order
import StagedRuns.Proofs.Plan.Names
import StagedRuns.Proofs.Plan.Barrier
import StagedRuns.Proofs.Watch.Memo
import StagedRuns.Proofs.Watch.History
import StagedRuns.Proofs.Watch.Repetition
import StagedRuns.Proofs.Watch.Rounds
import StagedRuns.Proofs.Plan.Distinct
import StagedRuns.Proofs.Expr.Grammar
import StagedRuns.Proofs.Expr.Soundness
import StagedRuns.Proofs.Expr.Completeness
import StagedRuns.Proofs.Expr.Acceptance
import StagedRuns.Proofs.Plan.Failure
import StagedRuns.Proofs.Plan.Exclusion
import StagedRuns.Proofs.Plan.Work
import StagedRuns.Proofs.Watch.Acknowledgement
import StagedRuns.Proofs.Text.Utf8
import StagedRuns.Proofs.Url.Host
import StagedRuns.Proofs.Url.Clone
import StagedRuns.Proofs.Service.Calls
import StagedRuns.Proofs.Service.Origin
import StagedRuns.Proofs.Yaml.Reading
import StagedRuns.Proofs.Yaml.Written
import StagedRuns.Proofs.Dictionary
import StagedRuns.Proofs.Counters
import StagedRuns.Proofs.Record.Kept
import StagedRuns.Proofs.Json.Scalar
import StagedRuns.Proofs.Json.Written
import StagedRuns.Proofs.Json.Kept
import StagedRuns.Proofs.Run.Kept
import StagedRuns.Proofs.Definition.Submission
import StagedRuns.Proofs.Service.Volume
import StagedRuns.Proofs.Service.Accounting
import StagedRuns.Proofs.Watch.Subscription
import StagedRuns.Proofs.Watch.WriteBack
import StagedRuns.Proofs.Json.Codec
import StagedRuns.Proofs.Run.Codec
import StagedRuns.Proofs.Number.Natural
import StagedRuns.Proofs.Expr.Members
import StagedRuns.Proofs.Webhook.Shown
import StagedRuns.Proofs.Webhook.Codec
import StagedRuns.Proofs.Pipeline.Validated
import StagedRuns.Proofs.Plan.Executable
import StagedRuns.Proofs.Run.Envelope
import StagedRuns.Proofs.Definition.Outcome
import StagedRuns.Proofs.Client.Exchange
import StagedRuns.Proofs.Client.Counting
import StagedRuns.Proofs.Plan.Outline
import StagedRuns.Proofs.Plan.Scripts
import StagedRuns.Proofs.Plan.Environment
import StagedRuns.Proofs.Pipeline.Summary
import StagedRuns.Proofs.Plan.NeverRun
import StagedRuns.Proofs.Pipeline.Arrangement
import StagedRuns.Proofs.Expr.Comparison
import StagedRuns.Proofs.Expr.Scanning
import StagedRuns.Proofs.Expr.Path
import StagedRuns.Proofs.Expr.Printing
import StagedRuns.Proofs.Expr.Height
import StagedRuns.Proofs.Counters.Exposition
import StagedRuns.Proofs.Counters.Published
import StagedRuns.Counters.Register
import StagedRuns.Proofs.Counters.Register
import StagedRuns.Proofs.Url.Escape
import StagedRuns.Proofs.Url.Verbatim
import StagedRuns.Proofs.Url.Below
import StagedRuns.Proofs.Client.Fetching
