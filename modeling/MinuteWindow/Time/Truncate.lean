import MinuteWindow.Time.Instant
/-! Truncating a date-time to its minute, field by field.

The date-time library stores a value as seconds since the epoch and a nanosecond part. Unlike
an `Instant` it does not check that a nanosecond part of one second or more (a leap second)
lies in the last second of a minute, and setting the second of a leap second keeps its
nanosecond part where it is. After changing a field the library checks only that the value
lies between the earliest and the latest representable date-times.

`Moment.withSecond?` sets the second of the minute (0 to 59) and keeps the nanoseconds;
`Moment.withNanosecond?` sets the nanoseconds (below two seconds) and keeps the rest. Either
gives nothing for a field out of its range or a value out of range. `Moment.truncateToMinute`
sets the second to 0 and then the nanoseconds to 0, and keeps the value as it was if a step
gives nothing. -/
namespace MinuteWindow.Time

/-- A date-time as the library stores it: seconds since the epoch and a nanosecond part, with
no check on where a leap second falls. -/
structure Moment where
  secs : Int
  nanos : Nat
  deriving DecidableEq, Repr

namespace Moment

/-- Time order: by second, then by nanosecond. -/
def le (a b : Moment) : Prop := a.secs < b.secs ∨ (a.secs = b.secs ∧ a.nanos ≤ b.nanos)

instance (a b : Moment) : Decidable (a.le b) := by unfold le; infer_instance

/-- The earliest representable date-time, `-262143-01-01T00:00:00`. -/
def earliest : Moment := ⟨minSecs, 0⟩

/-- The latest representable date-time, `+262142-12-31T23:59:59.999999999`. -/
def latest : Moment := ⟨maxSecs, nanosPerSecond - 1⟩

/-- The value itself, if it is representable. -/
def inRange? (m : Moment) : Option Moment :=
  if earliest.le m ∧ m.le latest then some m else none

/-- The value with the second of its minute set to `sec`, its nanoseconds kept. -/
def withSecond? (m : Moment) (sec : Nat) : Option Moment :=
  if 60 ≤ sec then none
  else
    let day := m.secs / 86400
    let secondOfDay := m.secs % 86400
    inRange? ⟨day * 86400 + (secondOfDay / 60 * 60 + sec), m.nanos⟩

/-- The value with its nanoseconds set to `ns`. -/
def withNanosecond? (m : Moment) (ns : Nat) : Option Moment :=
  if 2 * nanosPerSecond ≤ ns then none else inRange? ⟨m.secs, ns⟩

/-- The value with no seconds and no nanoseconds; the value itself if a step gives nothing. -/
def truncateToMinute (m : Moment) : Moment :=
  ((m.withSecond? 0).bind (·.withNanosecond? 0)).getD m

end Moment

/-- The date-time value of an instant. -/
def Instant.toMoment (t : Instant) : Moment := ⟨t.secs, t.nanos⟩

end MinuteWindow.Time
