import SqlGateway.Client.Run
import SqlGateway.Config.File
import SqlGateway.Database.Memory.Driver
import SqlGateway.Database.Memory.Procedure
import SqlGateway.Database.Scripted.Driver
import SqlGateway.Proofs.Memory.Atomicity
import SqlGateway.Proofs.Settings.Restored
import SqlGateway.Proofs.Trace.Handles
import SqlGateway.Proofs.Trace.Transaction
import SqlGateway.Proofs.Sql.Diagnosis
import SqlGateway.Proofs.Sql.Resolution
import SqlGateway.Proofs.Sql.Words
import SqlGateway.Proofs.Memory.Batch
import SqlGateway.Proofs.Walk.Handler
import SqlGateway.Proofs.Walk.Results
import SqlGateway.Proofs.Sql.Agreement
import SqlGateway.Proofs.Sql.Binding
import SqlGateway.Proofs.Sql.Staging
import SqlGateway.Proofs.Sql.Renaming
import SqlGateway.Proofs.Sql.CallForm
import SqlGateway.Proofs.Trace.Sending
import SqlGateway.Proofs.Memory.Collected
import SqlGateway.Proofs.Gateway.Build
import SqlGateway.Proofs.Gateway.NamedBatch
import SqlGateway.Proofs.Gateway.Dispatch
import SqlGateway.Proofs.Memory.Nesting
import SqlGateway.Proofs.Conduct.Basic
import SqlGateway.Proofs.Conduct.Cursor
import SqlGateway.Proofs.Conduct.Execution
import SqlGateway.Proofs.Conduct.Prepared
import SqlGateway.Proofs.Conduct.Refusal
import SqlGateway.Proofs.Conduct.Client
import SqlGateway.Proofs.Conduct.Traced
import SqlGateway.Proofs.Conduct.Styles
import SqlGateway.Proofs.Accord.Basic
import SqlGateway.Proofs.Accord.Execution
import SqlGateway.Proofs.Accord.Cursor
import SqlGateway.Proofs.Accord.Operation
import SqlGateway.Proofs.Accord.Work
import SqlGateway.Proofs.Accord.Job
import SqlGateway.Proofs.Accord.Watched
import SqlGateway.Proofs.Accord.PassOn
import SqlGateway.Proofs.Accord.FirstFailure
import SqlGateway.Proofs.Accord.Revision
import SqlGateway.Proofs.Accord.Refused
import SqlGateway.Proofs.Sql.Spelling
import SqlGateway.Proofs.Sql.Rendering
import SqlGateway.Proofs.Trace.Guard
import SqlGateway.Proofs.Walk.Settling
import SqlGateway.Proofs.Walk.Shape
import SqlGateway.Proofs.Row.Labels
import SqlGateway.Proofs.Memory.Outputs
import SqlGateway.Proofs.Memory.Apart
import SqlGateway.Proofs.Memory.Width
import SqlGateway.Proofs.Failure.Chain
import SqlGateway.Proofs.Sql.LetterCase
import SqlGateway.Proofs.Trace.Total
import SqlGateway.Proofs.Value.Texts
import SqlGateway.Proofs.Value.Decimal
import SqlGateway.Proofs.Row.Typed
import SqlGateway.Proofs.Config.Stored
import SqlGateway.Proofs.Config.Loaded
