import MinuteWindow.Text.Digits
/-! Event counters and their exposition.

Five counters track the event flow: events counted, events whose timestamp was replaced by the
clock, source messages skipped, minutes closed and window entries evicted. A counter is shown
once it has counted something. The window size is published as a gauge next to them.

Work that counts runs in `Metered`, a state of counters threaded through it. -/
namespace MinuteWindow.Telemetry

/-- The event counters. -/
structure Counters where
  recorded : Nat := 0
  fallback : Nat := 0
  skipped : Nat := 0
  rotations : Nat := 0
  evicted : Nat := 0
  deriving DecidableEq, Repr

/-- Work that bumps counters. -/
abbrev Metered := StateM Counters

/-- Counts one skipped source message. -/
def skip : Metered Unit := modify fun c => { c with skipped := c.skipped + 1 }

/-- Kinds of published metric. -/
inductive MetricKind where
  | counter
  | gauge
  deriving DecidableEq, Repr

/-- The text name of a metric kind. -/
def MetricKind.name : MetricKind → String
  | .counter => "counter"
  | .gauge => "gauge"

/-- One published metric: its name, description, kind and sample lines. -/
structure Family where
  name : String
  help : String
  kind : MetricKind
  samples : List String
  deriving Repr

/-- A counter's family, if it has counted anything. -/
def counterFamily (name help : String) (n : Nat) : List Family :=
  if n = 0 then [] else [⟨name, help, .counter, [name ++ " " ++ Text.decimal n]⟩]

/-- The published metrics, by name: the counters that have counted and the window gauge. -/
def Counters.families (c : Counters) (window : Nat) : List Family :=
  counterFamily "events_recorded_total" "Events counted by the aggregator." c.recorded ++
  counterFamily "events_skipped_total"
    "Source messages dropped for missing category/timestamp or bad JSON." c.skipped ++
  counterFamily "events_timestamp_fallback_total"
    "Events whose timestamp failed to parse and was replaced by now." c.fallback ++
  counterFamily "window_entries_evicted_total"
    "Window entries evicted for falling out of the window." c.evicted ++
  [⟨"window_minutes", "Configured window size in minutes.", .gauge,
    ["window_minutes " ++ Text.decimal window]⟩] ++
  counterFamily "window_rotations_total" "Open minutes closed into the window." c.rotations

end MinuteWindow.Telemetry
