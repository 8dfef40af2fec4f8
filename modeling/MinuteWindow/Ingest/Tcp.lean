import MinuteWindow.Ingest.Lines
import MinuteWindow.Net.SocketAddress
/-! Events over TCP: a listener whose every connection is a stream of JSON lines.

The source binds its listener first; a failure is reported with the address. Each connection
is then read like standard input, line by line to its end, and its events are forwarded before
the next connection is taken. Connections reach the listener only over a network that carries
them: where the local network is down, the first connection fails and no events arrive. -/
namespace MinuteWindow.Ingest
open Telemetry

/-- The network the service runs on. -/
structure Network where
  /-- whether connections to a local listener go through -/
  loopbackUp : Bool

/-- The events each connection delivers, in order, or why the streams never arrived. -/
def serveConnections (net : Network) (addr : String) (streams : List (List UInt8)) :
    Metered (Except String (List (List Event))) :=
  match Net.bind addr with
  | .error e => return .error ("binding event listener on " ++ addr ++ ": " ++ e)
  | .ok _ =>
    if streams.isEmpty then return .ok []
    else if !net.loopbackUp then return .error "Network is unreachable (os error 101)"
    else do
      let tallies ← streams.mapM fun s => forwardLines s true
      return .ok (tallies.map (·.events))

end MinuteWindow.Ingest
