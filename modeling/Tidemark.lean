import Tidemark.Command.Arguments
import Tidemark.Command.Run
import Tidemark.Cycle
import Tidemark.Daemon
import Tidemark.Engine.Basic
import Tidemark.Engine.MaxValue
import Tidemark.Engine.Row
import Tidemark.Host
import Tidemark.Job.Build
import Tidemark.Job.Check
import Tidemark.Job.Config
import Tidemark.Json.Basic
import Tidemark.Json.Decode
import Tidemark.Json.Fault
import Tidemark.Json.Printer
import Tidemark.Json.Scan
import Tidemark.Main
import Tidemark.Number.Binary64
import Tidemark.Number.Shortest
import Tidemark.Proofs.Cycle.Advance
import Tidemark.Proofs.Cycle.Coverage
import Tidemark.Proofs.Cycle.Exit
import Tidemark.Proofs.Cycle.Mirror
import Tidemark.Proofs.Cycle.Paging
import Tidemark.Proofs.Cycle.Phases
import Tidemark.Proofs.Cycle.Protocol
import Tidemark.Proofs.Cycle.Restart
import Tidemark.Proofs.Cycle.ResumePoint
import Tidemark.Proofs.Cycle.Retrieval
import Tidemark.Proofs.Cycle.RowContents
import Tidemark.Proofs.Cycle.Run
import Tidemark.Proofs.Cycle.Standing
import Tidemark.Proofs.Cycle.StillTable
import Tidemark.Proofs.Cycle.TextOrder
import Tidemark.Proofs.Cycle.Trace
import Tidemark.Proofs.Cycle.Unconstrained
import Tidemark.Proofs.Daemon.Handover
import Tidemark.Proofs.Daemon.Rounds
import Tidemark.Proofs.Engine.ByText
import Tidemark.Proofs.Engine.Evaluation
import Tidemark.Proofs.Engine.GreatestValue
import Tidemark.Proofs.Engine.Lines
import Tidemark.Proofs.Engine.Table
import Tidemark.Proofs.Engine.Ties
import Tidemark.Proofs.Job.Addressable
import Tidemark.Proofs.Json.Agreement
import Tidemark.Proofs.Json.CompactText
import Tidemark.Proofs.Json.Denotation
import Tidemark.Proofs.Json.Integer
import Tidemark.Proofs.Json.Literal
import Tidemark.Proofs.Json.Quoted
import Tidemark.Proofs.Json.Record
import Tidemark.Proofs.Json.ValueText
import Tidemark.Proofs.Json.Written
import Tidemark.Proofs.Number.Shortest
import Tidemark.Proofs.Query.Agreement
import Tidemark.Proofs.Query.Extension
import Tidemark.Proofs.Query.Grammar
import Tidemark.Proofs.Query.Reading
import Tidemark.Proofs.Query.Script
import Tidemark.Proofs.Query.Shape
import Tidemark.Proofs.Remote.Answer
import Tidemark.Proofs.Remote.BaseUrl
import Tidemark.Proofs.Remote.DocumentUrl
import Tidemark.Proofs.Remote.GreatestInteger
import Tidemark.Proofs.Remote.PointInTime
import Tidemark.Proofs.Storage.Atomic
import Tidemark.Proofs.Storage.Below
import Tidemark.Proofs.Storage.Components
import Tidemark.Proofs.Storage.Debris
import Tidemark.Proofs.Storage.Reading
import Tidemark.Proofs.Storage.Tree
import Tidemark.Proofs.Storage.Watched
import Tidemark.Proofs.Storage.Written
import Tidemark.Proofs.Text.Bytes
import Tidemark.Proofs.Text.Decimal
import Tidemark.Proofs.Text.Pieces
import Tidemark.Proofs.Text.Trim
import Tidemark.Proofs.Time.Clock
import Tidemark.Proofs.Time.Timestamp
import Tidemark.Proofs.Url.Form
import Tidemark.Proofs.Url.Percent
import Tidemark.Proofs.Watermark.Codec
import Tidemark.Proofs.Watermark.Descriptor
import Tidemark.Proofs.Watermark.DocumentText
import Tidemark.Proofs.Watermark.Register
import Tidemark.Query.Constraint
import Tidemark.Query.Literal
import Tidemark.Query.Plan
import Tidemark.Query.Rewriter
import Tidemark.Query.Step
import Tidemark.Remote.Client
import Tidemark.Remote.Http
import Tidemark.Remote.Message
import Tidemark.Remote.RowsBody
import Tidemark.Storage.Backend
import Tidemark.Storage.Directory
import Tidemark.Storage.DocumentPath
import Tidemark.Storage.FileSystem
import Tidemark.Storage.FileTree
import Tidemark.Storage.IoFault
import Tidemark.Text.Blank
import Tidemark.Text.CodePoints
import Tidemark.Text.CombiningClass
import Tidemark.Text.Composed
import Tidemark.Text.Count
import Tidemark.Text.Decomposition
import Tidemark.Text.Invisible
import Tidemark.Text.Mark
import Tidemark.Text.Pieces
import Tidemark.Text.Quoted
import Tidemark.Text.SmallLetter
import Tidemark.Time.Instant
import Tidemark.Time.Timestamp
import Tidemark.Toml.Decode
import Tidemark.Toml.Document
import Tidemark.Toml.Scalar
import Tidemark.Toml.Scan
import Tidemark.Toml.Table
import Tidemark.Toml.Value
import Tidemark.Url.Address
import Tidemark.Url.Basic
import Tidemark.Url.Domain
import Tidemark.Url.Domain.Direction
import Tidemark.Url.Domain.Fold
import Tidemark.Url.Domain.Joiner
import Tidemark.Url.Fault
import Tidemark.Url.Parse
import Tidemark.Url.Percent
import Tidemark.Url.Punycode
import Tidemark.Watermark.Basic
import Tidemark.Watermark.Permission
import Tidemark.Watermark.Store
