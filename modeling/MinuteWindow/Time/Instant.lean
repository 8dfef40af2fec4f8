import MinuteWindow.Time.Calendar
/-! Instants and minutes.

An `Instant` is a count of whole seconds since 1970-01-01T00:00:00Z with a nanosecond part.
A nanosecond part of one second or more marks a leap second: it belongs to the last second
of a minute and is written as second 60. Representable instants run from
`-262143-01-01T00:00:00Z` (`minSecs`) to `+262142-12-31T23:59:59.999999999Z` (`maxSecs`).

A `Minute` is a whole UTC minute, numbered from the epoch. `Instant.minute` is the minute an
instant lies in (a floor, so a leap second stays in its own minute), and `Minute.back` steps
back a number of minutes, stopping at the earliest representable minute.

`minute_start_le`: the start of an instant's minute is at or before it, and
`minute_mono`: later instants never lie in earlier minutes. -/
namespace MinuteWindow.Time

/-- Nanoseconds in a second. -/
def nanosPerSecond : Nat := 1000000000

/-- Earliest representable second: `-262143-01-01T00:00:00Z`. -/
def minSecs : Int := -8334601228800

/-- Latest representable second: `+262142-12-31T23:59:59Z`. -/
def maxSecs : Int := 8210266876799

/-- A point on the UTC time line. -/
structure Instant where
  secs : Int
  nanos : Nat
  nanos_lt : nanos < 2 * nanosPerSecond
  leap_last : nanosPerSecond ≤ nanos → secs % 60 = 59

instance : DecidableEq Instant := fun a b =>
  if h : a.secs = b.secs ∧ a.nanos = b.nanos then
    isTrue (by cases a; cases b; simp_all)
  else
    isFalse (by intro he; subst he; exact h ⟨rfl, rfl⟩)

namespace Instant

/-- The instant `secs` seconds after the epoch, on a whole second. -/
def ofSecs (secs : Int) : Instant := ⟨secs, 0, by decide, by intro h; cases h⟩

/-- Within the representable range. -/
def InRange (t : Instant) : Prop := minSecs ≤ t.secs ∧ t.secs ≤ maxSecs

instance (t : Instant) : Decidable t.InRange := by unfold InRange; infer_instance

/-- Time order: by second, then by nanosecond. -/
def le (a b : Instant) : Prop := a.secs < b.secs ∨ (a.secs = b.secs ∧ a.nanos ≤ b.nanos)

/-- Second of the minute, 0 to 59 (a leap second reads 59 here). -/
def secondOfMinute (t : Instant) : Nat := (t.secs % 60).toNat

/-- The civil date of the instant. -/
def date (t : Instant) : Date := Date.ofDays (t.secs / 86400)

/-- Seconds since midnight, 0 to 86399. -/
def secondOfDay (t : Instant) : Nat := (t.secs % 86400).toNat

end Instant

/-- A whole UTC minute, numbered from 1970-01-01T00:00Z. -/
structure Minute where
  index : Int
  deriving DecidableEq, Repr, Hashable

instance : LT Minute := ⟨fun a b => a.index < b.index⟩
instance : LE Minute := ⟨fun a b => a.index ≤ b.index⟩
instance (a b : Minute) : Decidable (a < b) := inferInstanceAs (Decidable (a.index < b.index))
instance (a b : Minute) : Decidable (a ≤ b) := inferInstanceAs (Decidable (a.index ≤ b.index))

namespace Minute

/-- Earliest representable minute. -/
def first : Minute := ⟨minSecs / 60⟩

/-- The instant at the start of the minute. -/
def start (m : Minute) : Instant := Instant.ofSecs (m.index * 60)

/-- `n` minutes earlier, or the earliest representable minute if that is further back. -/
def back (m : Minute) (n : Nat) : Minute := ⟨max (m.index - n) first.index⟩

end Minute

/-- The minute an instant lies in. -/
def Instant.minute (t : Instant) : Minute := ⟨t.secs / 60⟩

theorem Instant.minute_start_le (t : Instant) : Instant.le t.minute.start t := by
  unfold Instant.le Minute.start Instant.minute Instant.ofSecs
  simp only
  have h1 := Int.emod_add_mul_ediv t.secs 60
  have h2 := Int.emod_nonneg t.secs (by decide : (60 : Int) ≠ 0)
  rw [Int.mul_comm] at h1
  omega

theorem Instant.minute_mono (a b : Instant) (h : a.le b) : a.minute ≤ b.minute := by
  show a.secs / 60 ≤ b.secs / 60
  rcases h with h | ⟨h, -⟩
  · exact Int.ediv_le_ediv (by decide) (by omega)
  · exact Int.le_of_eq (congrArg (· / 60) h)

end MinuteWindow.Time
