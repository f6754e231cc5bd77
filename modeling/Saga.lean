import Saga.Ambient
import Saga.Chain
import Saga.Codec
import Saga.Config
import Saga.Context.Basic
import Saga.Context.Value
import Saga.Decimal.Layout
import Saga.Decimal.Shortest
import Saga.Definition
import Saga.Digest.NameUuid
import Saga.Digest.Sha1
import Saga.Digest.Sha256
import Saga.Engine.Act
import Saga.Engine.Instance
import Saga.Engine.Orchestrator
import Saga.Engine.Step
import Saga.Error
import Saga.Event.Kind
import Saga.Event.Lifecycle
import Saga.Event.Record
import Saga.Failure
import Saga.Instance
import Saga.Json.Basic
import Saga.Json.Read
import Saga.Json.Render
import Saga.Json.Shape
import Saga.Persist.Replay
import Saga.Persist.Store
import Saga.Persist.Stream
import Saga.Proc.Basic
import Saga.Proc.Schedule
import Saga.Protocol.Answer
import Saga.Protocol.Basic
import Saga.Protocol.Codec
import Saga.Protocol.Config
import Saga.Protocol.Context
import Saga.Protocol.Define
import Saga.Protocol.Direct
import Saga.Protocol.Event
import Saga.Protocol.Failure
import Saga.Protocol.Normalize
import Saga.Protocol.Retry
import Saga.Protocol.RowId
import Saga.Protocol.Scenario
import Saga.Protocol.Scene
import Saga.Protocol.Status
import Saga.Protocol.Telemetry
import Saga.Retry
import Saga.Snapshot
import Saga.State
import Saga.Status
import Saga.Step.Basic
import Saga.Step.Script
import Saga.Store.Events
import Saga.Store.RowId
import Saga.Store.Snapshots
import Saga.Store.Tables
import Saga.Telemetry
import Saga.Telemetry.Directive
import Saga.Telemetry.Pattern
import Saga.Text.Alphanumeric
import Saga.Text.Basic
import Saga.Text.Debug
import Saga.Text.Escaped
import Saga.Time.Instant
import Saga.Time.Span
import Saga.World
import Saga.Proofs.Persist.Meta
import Saga.Proofs.Persist.Log
import Saga.Proofs.Persist.Batch
import Saga.Proofs.Persist.Tiers
import Saga.Proofs.Persist.Save
import Saga.Proofs.Persist.Positions
import Saga.Proofs.Time.Strict
import Saga.Proofs.Persist.Rebuild
import Saga.Proofs.Persist.Load
import Saga.Proofs.Persist.Readback
import Saga.Proofs.Store.Append
import Saga.Proofs.Persist.Growth
import Saga.Proofs.Persist.Reads
import Saga.Proofs.Proc.Logic
import Saga.Proofs.Engine.Quiet
import Saga.Proofs.Engine.Calm
import Saga.Proofs.Engine.Steps
import Saga.Proofs.Engine.Keys
import Saga.Proofs.Engine.Writes
import Saga.Proofs.Engine.Outcome
import Saga.Proofs.Engine.Running
import Saga.Proofs.Proc.Ghost
import Saga.Proofs.Engine.Runs
import Saga.Proofs.Engine.OnePass
import Saga.Proofs.Proc.Annotate
import Saga.Proofs.Engine.Watched
import Saga.Proofs.Engine.FailedWrites
import Saga.Proofs.Engine.Linear
import Saga.Proofs.Engine.Retries
import Saga.Proofs.Engine.Fanout
import Saga.Proofs.Engine.Announcements
import Saga.Proofs.Engine.Trace
import Saga.Proofs.Store.RowKeys
import Saga.Proofs.Store.Rows
