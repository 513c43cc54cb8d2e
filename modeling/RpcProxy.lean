import RpcProxy.AccessLog
import RpcProxy.BuildError
import RpcProxy.Bytes
import RpcProxy.Cluster
import RpcProxy.Codec
import RpcProxy.CommandLine.Program
import RpcProxy.CommandLine.Switch
import RpcProxy.Config.Basic
import RpcProxy.Config.Decode
import RpcProxy.Config.Encode
import RpcProxy.Config.Update
import RpcProxy.Config.Validate
import RpcProxy.Config.WatchedFolder
import RpcProxy.Decimal.Read
import RpcProxy.Decimal.Shortest
import RpcProxy.Detector
import RpcProxy.Downstream
import RpcProxy.Exchange.Basic
import RpcProxy.Exchange.Envelope
import RpcProxy.Exchange.Failure
import RpcProxy.Exchange.ReplyDecoder
import RpcProxy.Exchange.RequestLine
import RpcProxy.Exchange.Solo
import RpcProxy.FileTree
import RpcProxy.Filter
import RpcProxy.Filter.Scripted
import RpcProxy.Json.Basic
import RpcProxy.Json.Octets
import RpcProxy.Json.Read
import RpcProxy.LogLevel
import RpcProxy.Main
import RpcProxy.Message
import RpcProxy.Metrics.Basic
import RpcProxy.Metrics.Listener
import RpcProxy.Metrics.Router
import RpcProxy.Panic
import RpcProxy.Plan
import RpcProxy.Pool.Scripted
import RpcProxy.Pool.Solo
import RpcProxy.Pool.Source
import RpcProxy.Pool.Tcp
import RpcProxy.Proofs.Config.Differences
import RpcProxy.Proofs.Config.Watching
import RpcProxy.Proofs.Exchange.Arrival
import RpcProxy.Proofs.Exchange.Calls
import RpcProxy.Proofs.Exchange.ExchangePhases
import RpcProxy.Proofs.Exchange.Errand
import RpcProxy.Proofs.Exchange.ConnectionCommands
import RpcProxy.Proofs.Host.Ejection
import RpcProxy.Proofs.Host.Looks
import RpcProxy.Proofs.Host.Records
import RpcProxy.Proofs.Host.Rotation
import RpcProxy.Proofs.Metrics.Export
import RpcProxy.Proofs.Pool.SentCalls
import RpcProxy.Proofs.Pool.Answers
import RpcProxy.Proofs.Pool.Budget
import RpcProxy.Proofs.Pool.FinalStates
import RpcProxy.Proofs.Pool.ConnectionHands
import RpcProxy.Proofs.Server.CloseNotices
import RpcProxy.Proofs.Server.RoutesKnown
import RpcProxy.Proofs.Server.Reload
import RpcProxy.Proofs.Server.Traffic
import RpcProxy.Proofs.Session.ShareSteps
import RpcProxy.Proofs.Session.RequestHandlers
import RpcProxy.Proofs.Session.CounterBalance
import RpcProxy.Proofs.Session.CallAccounts
import RpcProxy.Proofs.Session.GaugeCounts
import RpcProxy.Proofs.Session.ConnectionOwnership
import RpcProxy.Proofs.Session.Finality
import RpcProxy.Proofs.Session.StreamsInFlight
import RpcProxy.Proofs.Session.History
import RpcProxy.Proofs.Session.Incidents
import RpcProxy.Proofs.Session.Ledger
import RpcProxy.Proofs.Session.ReplyLines
import RpcProxy.Proofs.Session.RouterMoves
import RpcProxy.Proofs.Session.CallNumbering
import RpcProxy.Proofs.Session.RouterOutcome
import RpcProxy.Proofs.Session.Pipelining
import RpcProxy.Proofs.Session.ReplyRelay
import RpcProxy.Proofs.Session.ConnectionReturns
import RpcProxy.Proofs.Session.ConnectionLoop
import RpcProxy.Proofs.Session.RouteLookup
import RpcProxy.Proofs.Session.WorkSteps
import RpcProxy.Proofs.Session.SurplusOctets
import RpcProxy.Proofs.Session.SceneInputs
import RpcProxy.Proofs.Session.TaskBound
import RpcProxy.Proofs.Session.RouterFrame
import RpcProxy.Proofs.Session.SceneTurns
import RpcProxy.Proofs.Session.RouterWork
import RpcProxy.Proofs.Trace.Truncation
import RpcProxy.Proofs.Wire.Arrival
import RpcProxy.Proofs.Work.Draining
import RpcProxy.Report.Basic
import RpcProxy.Report.CommandLine
import RpcProxy.Report.Config
import RpcProxy.Report.Host
import RpcProxy.Report.Message
import RpcProxy.Report.Server
import RpcProxy.Report.Session
import RpcProxy.Route
import RpcProxy.Server.Basic
import RpcProxy.Server.Bind
import RpcProxy.Server.Traffic
import RpcProxy.Session.Basic
import RpcProxy.Session.Routing
import RpcProxy.Session.Run
import RpcProxy.Session.Scripted
import RpcProxy.Session.Serve
import RpcProxy.Session.Streams
import RpcProxy.Status
import RpcProxy.Stream
import RpcProxy.StreamInfo
import RpcProxy.StringMap
import RpcProxy.Text.Blank
import RpcProxy.Text.Lines
import RpcProxy.Text.Lossy
import RpcProxy.Text.Quote
import RpcProxy.Text.Shape
import RpcProxy.Time.Civil
import RpcProxy.Time.Clock
import RpcProxy.Time.Duration
import RpcProxy.Toml.Document
import RpcProxy.Toml.Json
import RpcProxy.Toml.Scalar
import RpcProxy.Toml.SpelledDate
import RpcProxy.Toml.Value
import RpcProxy.Trace
import RpcProxy.Uri
import RpcProxy.Wire
import RpcProxy.WorkQueue
