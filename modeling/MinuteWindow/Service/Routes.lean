import MinuteWindow.Service.Cors
import MinuteWindow.Service.MediaType
import MinuteWindow.Json.Reader
import MinuteWindow.Json.Writer
import MinuteWindow.Event.Basic
import MinuteWindow.Window.Aggregator
import MinuteWindow.Time.Rfc3339
/-! The HTTP service over an aggregator.

Five routes, matched on the exact path: `GET /health` answers `ok`; `GET /api/emoji-data`,
`GET /api/total-data` and `GET /api/stats` read the window (closing the open minute, as every
query does); `POST /api/events` takes one message or an array of them. The read routes also
answer `HEAD`, with the body left out and its length kept.

A request is checked in this order: an unknown path is refused with 404 (a path that is not
absolute, such as `*`, takes the catch-all answer, which states its empty length); a method the route
does not answer is refused with 405 and the route's `Allow` list, except that `OPTIONS` is a
preflight (`Cors`); a posted body must be announced as JSON (415) and be JSON (400). Each posted
message is decoded as a line of the event stream is; an event goes to the consumer, which
records it at once. Without a consumer the first event ends the post with 503 and the counts so
far. -/
namespace MinuteWindow.Service
open Json Window Time Telemetry

/-- The routes of the service. -/
inductive Route where
  | health
  | emojiData
  | totalData
  | stats
  | events
  deriving DecidableEq, Repr

/-- The route of a path, matched exactly. -/
def Route.ofPath? : String → Option Route
  | "/health" => some .health
  | "/api/emoji-data" => some .emojiData
  | "/api/total-data" => some .totalData
  | "/api/stats" => some .stats
  | "/api/events" => some .events
  | _ => none

/-- The methods a route answers, as its `Allow` field lists them. -/
def Route.allow : Route → String
  | .events => "POST"
  | _ => "GET,HEAD"

/-- Whether a route answers a method. -/
def Route.answers : Route → String → Bool
  | .events, m => m == "POST"
  | _, m => m == "GET" || m == "HEAD"

/-- The service's state: the aggregator, and whether a consumer records posted events. -/
structure Server where
  aggregator : Aggregator
  consuming : Bool

/-- A point of a series as the service writes it. -/
def pointValue (e : Entry) : Value :=
  Value.ofFields [("timestamp", .string (e.minute.toRfc3339 .zulu)), ("count", .nat e.count)]

/-- A JSON response. -/
def jsonResponse (status : Nat) (v : Value) : Response :=
  .withBody status jsonType (Text.utf8Bytes v.render)

/-- How many posted messages were passed on and how many were not events. -/
structure Posted where
  accepted : Nat
  skipped : Nat
  deriving DecidableEq, Repr

/-- The body that reports a post. -/
def Posted.value (p : Posted) : Value :=
  Value.ofFields [("accepted", .nat p.accepted), ("skipped", .nat p.skipped)]

/-- Decodes posted messages in order and hands each event to the consumer. Without a consumer
the first event ends the post; the flag says so. -/
def Server.post (s : Server) : List Value → Posted → Metered (Bool × Posted × Server)
  | [], p => return (false, p, s)
  | v :: rest, p => do
    match ← Event.ofValue? v with
    | none => s.post rest { p with skipped := p.skipped + 1 }
    | some e =>
      if s.consuming then
        let a ← s.aggregator.recordText e.category e.timestamp
        Server.post { s with aggregator := a } rest { p with accepted := p.accepted + 1 }
      else return (true, p, s)

/-- The text of a body that is not announced as JSON. -/
def notJsonText : String := "Expected request with `Content-Type: application/json`"

/-- Whether the request announces a JSON body. -/
def Request.announcesJson (r : Request) : Bool :=
  match r.header? "content-type" with
  | some t => Service.announcesJson t
  | none => false

/-- `POST /api/events`: one message, or an array of them. -/
def Server.postEvents (s : Server) (r : Request) : Metered (Response × Server) := do
  if !r.announcesJson then return (.text 415 notJsonText, s)
  match Json.read r.body with
  | .error e =>
    return (.text 400 ("Failed to parse the request body as JSON: " ++ e.pathMessage r.body), s)
  | .ok v =>
    let messages := match v with
      | .array items => items
      | single => [single]
    let (refused, p, s) ← s.post messages ⟨0, 0⟩
    return (jsonResponse (if refused then 503 else 202) p.value, s)

/-- The body of `GET /api/stats`. -/
def statsValue (m : Summary) : Value :=
  Value.ofFields [("total_emojis", .nat m.totalCount),
    ("emoji_breakdown", Value.ofFields (m.perCategory.map fun (k, n) => (k, .nat n))),
    ("window_minutes", .nat m.window)]

/-- Runs the route's handler. -/
def Server.serve (s : Server) (route : Route) (r : Request) : Metered (Response × Server) :=
  match route with
  | .health => return (.text 200 "ok", s)
  | .emojiData => do
    let (cs, a) ← s.aggregator.categorySeries
    let body := Value.ofFields (cs.map fun (k, series) => (k, .array (series.map pointValue)))
    return (jsonResponse 200 body, { s with aggregator := a })
  | .totalData => do
    let (series, a) ← s.aggregator.totalSeries
    return (jsonResponse 200 (.array (series.map pointValue)), { s with aggregator := a })
  | .stats => do
    let (m, a) ← s.aggregator.summary
    return (jsonResponse 200 (statsValue m), { s with aggregator := a })
  | .events => s.postEvents r

/-- Answers one request. -/
def Server.handle (s : Server) (r : Request) : Metered (Response × Server) := do
  match Route.ofPath? r.path with
  | none =>
    let notFound : Response := if r.path.startsWith "/" then ⟨404, corsHeaders r, []⟩
      else ⟨404, corsHeaders r ++ [("content-length", "0")], []⟩
    return (if r.isPreflight then preflight r else notFound, s)
  | some route =>
    if route.answers r.method then
      let (resp, s) ← s.serve route r
      let resp := resp.addHeaders (corsHeaders r)
      return (if r.method == "HEAD" then { resp with body := [] } else resp, s)
    else
      let resp := if r.isPreflight then preflight r else ⟨405, corsHeaders r, []⟩
      return (resp.addHeaders [("allow", route.allow), ("content-length", "0")], s)

/-- Answers requests in order. -/
def Server.handleAll (s : Server) : List Request → Metered (List Response)
  | [] => return []
  | r :: rest => do
    let (resp, s) ← s.handle r
    return resp :: (← s.handleAll rest)

end MinuteWindow.Service
