import MinuteWindow.Cli.DotEnv
import MinuteWindow.Cli.MatchValue
import MinuteWindow.Cli.LogFilter
import MinuteWindow.Cli.Run
import MinuteWindow.Config.Load
import MinuteWindow.Config.Settings
import MinuteWindow.Decimal.Nearest
import MinuteWindow.Decimal.Shortest
import MinuteWindow.Event.Basic
import MinuteWindow.Ingest.Channel
import MinuteWindow.Ingest.Lines
import MinuteWindow.Ingest.Pipeline
import MinuteWindow.Ingest.Tcp
import MinuteWindow.Json.Error
import MinuteWindow.Json.Lexeme
import MinuteWindow.Json.Reader
import MinuteWindow.Json.Value
import MinuteWindow.Json.Writer
import MinuteWindow.Main
import MinuteWindow.Net.SocketAddress
import MinuteWindow.Pattern.Accept
import MinuteWindow.Pattern.Syntax
import MinuteWindow.Proofs.Event.Decode
import MinuteWindow.Proofs.Event.Wire
import MinuteWindow.Proofs.Ingest.Delivery
import MinuteWindow.Proofs.Ingest.LineReader
import MinuteWindow.Proofs.Json.RoundTrip
import MinuteWindow.Proofs.Service.Posting
import MinuteWindow.Proofs.Text.Utf8
import MinuteWindow.Proofs.Time.Calendar
import MinuteWindow.Proofs.Time.Layouts
import MinuteWindow.Proofs.Time.Numbers
import MinuteWindow.Proofs.Time.Parsing
import MinuteWindow.Proofs.Time.RoundTrip
import MinuteWindow.Proofs.Time.Truncation
import MinuteWindow.Proofs.Window.Bounds
import MinuteWindow.Proofs.Window.Eviction
import MinuteWindow.Proofs.Window.History
import MinuteWindow.Proofs.Window.Invariant
import MinuteWindow.Proofs.Window.Keyed
import MinuteWindow.Proofs.Window.Queries
import MinuteWindow.Proofs.Window.Series
import MinuteWindow.Proofs.Window.Tails
import MinuteWindow.Service.Cors
import MinuteWindow.Service.Exchange
import MinuteWindow.Service.MediaType
import MinuteWindow.Service.Routes
import MinuteWindow.Telemetry.Counters
import MinuteWindow.Telemetry.Recorder
import MinuteWindow.Text.Alphanumeric
import MinuteWindow.Text.Blank
import MinuteWindow.Text.Digits
import MinuteWindow.Text.Quote
import MinuteWindow.Text.Utf8
import MinuteWindow.Time.Calendar
import MinuteWindow.Time.Fields
import MinuteWindow.Time.Instant
import MinuteWindow.Time.Reading
import MinuteWindow.Time.Rfc3339
import MinuteWindow.Time.Truncate
import MinuteWindow.Time.Wire
import MinuteWindow.Toml.Document
import MinuteWindow.Toml.Lexer
import MinuteWindow.Toml.Parser
import MinuteWindow.Toml.Problem
import MinuteWindow.Toml.Scalar
import MinuteWindow.Window.Aggregator
import MinuteWindow.Window.Keyed
import MinuteWindow.Window.Series
import MinuteWindow.Window.Session
import MinuteWindow.Window.Store

/-! Per-minute event counts over a sliding window, with their readers, writers and service. -/
