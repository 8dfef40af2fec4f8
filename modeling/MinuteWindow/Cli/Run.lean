import MinuteWindow.Cli.DotEnv
import MinuteWindow.Cli.LogFilter
import MinuteWindow.Net.SocketAddress
import MinuteWindow.Ingest.Lines
import MinuteWindow.Json.Value
/-! One run of the service from its command line, start to shutdown.

The run loads the environment file `.env` (never overriding a variable already set), sets up
logging (JSON records when `LOG_FORMAT` is `json` in any case, compact lines otherwise, filtered
by `RUST_LOG` or else by the default filter), loads the settings and logs them, then binds the
event listener (for the TCP source) and the HTTP listener, and logs that it listens. From then on
it serves until it is interrupted: it logs the request, stops the source, lets the consumer drain
and logs how many events it recorded. A run that is not interrupted keeps serving.

A failure ends the run with exit code 1 and a report on standard error: `Error: ` and the
outermost message, then `Caused by:` and the causes, numbered when there are several, with their
continuation lines indented. -/
namespace MinuteWindow.Cli
open Config Json

/-- The target of the program's own log records. -/
def programTarget : String := "emoji_analytics"

/-- A field of a log record. -/
inductive FieldValue where
  | text (s : String)
  | count (n : Nat)
  deriving DecidableEq, Repr

/-- An informational log record: its message and fields. -/
structure Record where
  message : String
  fields : List (String × FieldValue)
  deriving DecidableEq, Repr

/-- A log line as written: compact text or a JSON object. -/
inductive LogLine where
  | compact (line : String)
  | json (record : Value)
  deriving Repr

/-- A record as a compact line. -/
def Record.compactLine (r : Record) : String :=
  "INFO " ++ programTarget ++ ": " ++ r.message ++ String.join (r.fields.map fun (k, v) =>
    " " ++ k ++ "=" ++ match v with
      | .text s => s
      | .count n => Text.decimal n)

/-- A record as a JSON object. -/
def Record.jsonObject (r : Record) : Value :=
  Value.ofFields [
    ("fields", Value.ofFields (("message", .string r.message) :: r.fields.map fun (k, v) =>
      (k, match v with
        | .text s => .string s
        | .count n => .nat n))),
    ("level", .string "INFO"),
    ("target", .string programTarget)]

/-- How records are written and which are shown. -/
structure Logger where
  json : Bool
  filter : List Directive

/-- The logger an environment asks for. -/
def Logger.ofEnv (env : Env) : Logger :=
  let json := (envValue? env "LOG_FORMAT").any fun v => v.map Char.toLower == "json"
  let filter := ((envValue? env "RUST_LOG").bind parseFilter).getD (defaultFilter programTarget)
  ⟨json, filter⟩

/-- The lines a logger writes for a record. -/
def Logger.write (l : Logger) (r : Record) : List LogLine :=
  if shown l.filter programTarget ("message" :: r.fields.map (·.1)) .info then
    [if l.json then .json r.jsonObject else .compact r.compactLine]
  else []

/-- What a run is given: its environment, its files, its standard input and whether it is
interrupted once it serves. -/
structure Invocation where
  env : Env
  files : Files
  input : List UInt8
  interrupted : Bool

/-- How a run ends: its exit code (none while still serving), its log lines and its report. -/
structure Outcome where
  exitCode : Option Nat
  stillServing : Bool
  lines : List LogLine
  report : String
  deriving Repr

/-- A run that failed after writing some log lines. -/
def failed (lines : List LogLine) (f : Failure) : Outcome := ⟨some 1, false, lines, f.report⟩

/-- How many events the consumer records from standard input before the source stops. -/
def drained (s : Settings) (input : List UInt8) : Nat :=
  match s.source with
  | .stdin => ((Ingest.forwardLines input true).run {}).1.forwarded
  | _ => 0

/-- Runs the service. -/
def run (inv : Invocation) : Outcome :=
  let env := match inv.files.lookup ".env" with
    | .file text => loadEnvFile text inv.env
    | _ => inv.env
  let log := Logger.ofEnv env
  match loadDefault inv.files env with
  | .error f => failed [] (f.within "loading configuration")
  | .ok s =>
    let loaded := log.write ⟨"configuration loaded", [("cfg", .text s.dump)]⟩
    let eventBind : Except String Unit :=
      if s.source == .tcp then
        match Net.bind s.tcpAddr with
        | .ok _ => .ok ()
        | .error e => .error e
      else .ok ()
    match eventBind with
    | .error e => failed loaded ⟨["binding event listener on " ++ s.tcpAddr, e]⟩
    | .ok () =>
      match Net.bind s.bindAddr with
      | .error e => failed loaded ⟨["binding http listener on " ++ s.bindAddr, e]⟩
      | .ok _ =>
        let listening := loaded ++ log.write ⟨"http server listening", [("addr", .text s.bindAddr)]⟩
        if inv.interrupted then
          let stopped := listening ++ log.write ⟨"shutdown requested", []⟩ ++
            log.write ⟨"consumer drained", [("recorded", .count (drained s inv.input))]⟩
          ⟨some 0, false, stopped, ""⟩
        else ⟨none, true, listening, ""⟩

end MinuteWindow.Cli
