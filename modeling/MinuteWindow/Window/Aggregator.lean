import MinuteWindow.Window.Store
import MinuteWindow.Time.Reading
import MinuteWindow.Telemetry.Counters
/-! The aggregator: a window store with its window size and fallback clock.

The window is at least one minute: a window of 0 is taken as 1. Events are recorded with an
instant, or with a timestamp text that is read leniently; text that cannot be read is replaced
by the clock's instant and counted as a fallback. Every query closes the open minute first, so
it sees every event recorded so far.

Counters: each recorded event counts once, each close of a non-empty bucket counts a rotation,
and the entries it evicts are added to the evicted count. -/
namespace MinuteWindow.Window
open Time Telemetry

/-- A window store with its window size and the instant used for unreadable timestamps. -/
structure Aggregator where
  window : Nat
  now : Instant
  store : Store

/-- Totals over the retained series. -/
structure Summary where
  totalCount : Nat
  perCategory : List (String × Nat)
  window : Nat
  deriving Repr

/-- Adds what a close did to the counters. -/
def Rotation.note (r : Rotation) (c : Counters) : Counters :=
  match r.minute with
  | none => c
  | some _ => { c with rotations := c.rotations + 1, evicted := c.evicted + r.evicted }

namespace Aggregator

/-- An empty aggregator; a window of 0 minutes is taken as 1. -/
def create (window : Nat) (now : Instant) : Aggregator := ⟨max window 1, now, {}⟩

/-- The open minute, if any event was recorded. -/
def openMinute (a : Aggregator) : Option Minute := a.store.openMinute

/-- Counts one event of `category` at instant `t`. -/
def record (a : Aggregator) (category : String) (t : Instant) : Metered Aggregator := do
  let (store, rot) := a.store.record category t.minute a.window
  modify fun c => rot.note { c with recorded := c.recorded + 1 }
  return { a with store }

/-- Counts one event with a timestamp text; unreadable text takes the clock's instant. -/
def recordText (a : Aggregator) (category raw : String) : Metered Aggregator := do
  match Instant.parse? raw with
  | some t => a.record category t
  | none =>
    modify fun c => { c with fallback := c.fallback + 1 }
    a.record category a.now

/-- Closes the open minute. -/
def close (a : Aggregator) : Metered Aggregator := do
  let (store, rot) := a.store.rotate a.window
  modify rot.note
  return { a with store }

/-- The totals series, after a close. -/
def totalSeries (a : Aggregator) : Metered (Series × Aggregator) := do
  let a ← a.close
  return (a.store.totals, a)

/-- The series of every category, after a close. -/
def categorySeries (a : Aggregator) : Metered (List (String × Series) × Aggregator) := do
  let a ← a.close
  return (a.store.byCategory.entries, a)

/-- Totals of the retained series, after a close. -/
def summary (a : Aggregator) : Metered (Summary × Aggregator) := do
  let a ← a.close
  let per := a.store.byCategory.entries.map fun (k, s) => (k, s.total)
  return (⟨a.store.totals.total, per, a.window⟩, a)

/-- The debug text of an aggregator, which shows its window only. -/
def debugText (a : Aggregator) : String :=
  "Aggregator \x7b window_minutes: " ++ Text.decimal a.window ++ ", .. \x7d"

end Aggregator
end MinuteWindow.Window
