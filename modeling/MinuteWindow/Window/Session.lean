import MinuteWindow.Window.Aggregator
/-! A session of steps on one aggregator.

A `Step` is one call on the aggregator: recording (by instant, many times, or by timestamp
text), reading the open minute or the window, the three closing queries, and the debug text.
`Aggregator.runSteps` performs them in order and gives one `Reply` per step, and
`Aggregator.afterSteps` the aggregator they leave. -/
namespace MinuteWindow.Window
open Time Telemetry

/-- One call on an aggregator. -/
inductive Step where
  | record (category : String) (time : Instant)
  | recordMany (category : String) (time : Instant) (count : Nat)
  | recordText (category raw : String)
  | openMinute
  | windowMinutes
  | totalSeries
  | categorySeries
  | summary
  | debug

/-- What a step answers. -/
inductive Reply where
  | openMinute (m : Option Minute)
  | windowMinutes (w : Nat)
  | totalSeries (s : Series)
  | categorySeries (cs : List (String × Series))
  | summary (s : Summary)
  | debug (text : String)

namespace Aggregator

/-- Records the same event `count` times. -/
def recordTimes (a : Aggregator) (category : String) (t : Instant) : Nat → Metered Aggregator
  | 0 => return a
  | k + 1 => do recordTimes (← a.record category t) category t k

/-- Performs one step. -/
def step (a : Aggregator) : Step → Metered (Reply × Aggregator)
  | .record c t => do
    let a ← a.record c t
    return (.openMinute a.openMinute, a)
  | .recordMany c t k => do
    let a ← a.recordTimes c t k
    return (.openMinute a.openMinute, a)
  | .recordText c raw => do
    let a ← a.recordText c raw
    return (.openMinute a.openMinute, a)
  | .openMinute => return (.openMinute a.openMinute, a)
  | .windowMinutes => return (.windowMinutes a.window, a)
  | .totalSeries => do
    let (s, a) ← a.totalSeries
    return (.totalSeries s, a)
  | .categorySeries => do
    let (cs, a) ← a.categorySeries
    return (.categorySeries cs, a)
  | .summary => do
    let (s, a) ← a.summary
    return (.summary s, a)
  | .debug => return (.debug a.debugText, a)

/-- Performs the steps in order, one reply each. -/
def runSteps (a : Aggregator) : List Step → Metered (List Reply)
  | [] => return []
  | s :: rest => do
    let (r, a) ← a.step s
    return r :: (← a.runSteps rest)

/-- The aggregator after performing the steps in order. -/
def afterSteps (a : Aggregator) : List Step → Metered Aggregator
  | [] => return a
  | s :: rest => do
    let (_, a) ← a.step s
    a.afterSteps rest

end Aggregator
end MinuteWindow.Window
