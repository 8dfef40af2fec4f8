import MinuteWindow.Ingest.Lines
import MinuteWindow.Window.Aggregator
/-! From a stream of JSON lines to the window.

The line reader forwards events, in order, to the one consumer, which records each with its
timestamp text and counts what it recorded. `Pipeline.run` reads a whole stream into an
aggregator and then reads the open minute and closes it through the three queries, in that
order. -/
namespace MinuteWindow.Ingest
open Window Telemetry Time

/-- Records events in order; returns the aggregator and how many were recorded. -/
def consume (a : Aggregator) : List Event → Metered (Aggregator × Nat)
  | [] => return (a, 0)
  | e :: rest => do
    let a ← a.recordText e.category e.timestamp
    let (a, n) ← consume a rest
    return (a, n + 1)

/-- What a whole stream leaves in the window. -/
structure Outcome where
  recorded : Nat
  openMinute : Option Minute
  totals : Series
  byCategory : List (String × Series)
  summary : Summary

/-- Reads a stream into the aggregator, then queries it. -/
def runPipeline (a : Aggregator) (bytes : List UInt8) : Metered Outcome := do
  let tally ← forwardLines bytes true
  let (a, recorded) ← consume a tally.events
  let openMinute := a.openMinute
  let (totals, a) ← a.totalSeries
  let (byCategory, a) ← a.categorySeries
  let (summary, _) ← a.summary
  return ⟨recorded, openMinute, totals, byCategory, summary⟩

end MinuteWindow.Ingest
