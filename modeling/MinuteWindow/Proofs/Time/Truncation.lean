import Mathlib
import MinuteWindow.Time.Truncate
/-! Truncation to the minute is a floor.

Setting the second of a representable instant to 0 gives a value at or after the earliest
representable date-time, which starts a minute, and before the latest one, which ends a minute;
so the library accepts it, and then accepts the value with no nanoseconds either. The truncation
therefore never falls back to the value itself: it gives the start of the instant's minute
(`Instant.truncateToMinute_eq`), the date-time that the instant's minute key holds. A leap second,
whose nanosecond part passes one second, is truncated into its own minute like any other value.

`truncateToMinute_floor`: for every representable instant the truncation succeeds, has no
seconds and no nanoseconds, lies in the instant's minute and not after the instant; it leaves a
minute key as it is, and it orders instants as their minutes order them. -/
namespace MinuteWindow.Time

theorem Moment.inRange?_of_le {m : Moment} (h₁ : earliest.le m) (h₂ : m.le latest) :
    m.inRange? = some m := by
  simp [inRange?, h₁, h₂]

/-- A date-time before the last representable second is not after the latest date-time, whatever
its nanoseconds. -/
theorem Moment.le_latest_of_lt {x : Int} (hx : x < maxSecs) (ns : Nat) : (⟨x, ns⟩ : Moment).le latest :=
  Or.inl hx

@[simp] theorem Minute.start_minute (m : Minute) : m.start.minute = m := by
  show (⟨m.index * 60 / 60⟩ : Minute) = m
  rw [Int.mul_ediv_cancel _ (by decide)]

theorem Minute.start_toMoment (m : Minute) : m.start.toMoment = ⟨m.index * 60, 0⟩ := rfl

namespace Instant

/-- The start of the minute of a representable instant lies in the representable range, short
of its last second. -/
theorem minute_start_bounds (t : Instant) (ht : t.InRange) :
    minSecs ≤ t.secs / 60 * 60 ∧ t.secs / 60 * 60 < maxSecs := by
  obtain ⟨hlo, hhi⟩ := ht
  simp only [minSecs, maxSecs] at hlo hhi ⊢
  omega

/-- Setting the second to 0 moves a representable instant to the start of its minute and keeps
its nanoseconds, those of a leap second included. -/
theorem withSecond?_zero (t : Instant) (ht : t.InRange) :
    t.toMoment.withSecond? 0 = some ⟨t.secs / 60 * 60, t.nanos⟩ := by
  obtain ⟨hlo, hhi⟩ := minute_start_bounds t ht
  -- the minute of the day starts where the minute since the epoch starts: a day is 1440 minutes
  have hday : t.secs / 86400 * 86400 + t.secs % 86400 / 60 * 60 = t.secs / 60 * 60 := by
    omega
  simp only [Moment.withSecond?, toMoment, Nat.le_zero, OfNat.ofNat_ne_zero, if_false,
    Nat.cast_zero, Int.add_zero]
  rw [hday]
  exact Moment.inRange?_of_le (Int.lt_or_eq_of_le hlo |>.imp id fun h => ⟨h, Nat.zero_le _⟩)
    (Moment.le_latest_of_lt hhi _)

/-- Then setting the nanoseconds to 0 gives the start of the minute. -/
theorem withNanosecond?_zero (t : Instant) (ht : t.InRange) :
    (⟨t.secs / 60 * 60, t.nanos⟩ : Moment).withNanosecond? 0 = some t.minute.start.toMoment := by
  obtain ⟨hlo, hhi⟩ := minute_start_bounds t ht
  simp only [Moment.withNanosecond?, nanosPerSecond, Nat.le_zero]
  exact Moment.inRange?_of_le (Int.lt_or_eq_of_le hlo |>.imp id fun h => ⟨h, Nat.le_refl 0⟩)
    (Moment.le_latest_of_lt hhi _)

/-- The truncation of a representable instant takes neither fallback: it is the start of the
instant's minute. -/
theorem truncate_steps (t : Instant) (ht : t.InRange) :
    (t.toMoment.withSecond? 0).bind (·.withNanosecond? 0) = some t.minute.start.toMoment := by
  rw [withSecond?_zero t ht, Option.bind_some, withNanosecond?_zero t ht]

theorem truncateToMinute_eq (t : Instant) (ht : t.InRange) :
    t.toMoment.truncateToMinute = t.minute.start.toMoment := by
  rw [Moment.truncateToMinute, truncate_steps t ht, Option.getD_some]

end Instant

/-- **Truncation to the minute is a floor.** For every representable instant, leap seconds and
instants before the epoch included, setting the second and then the nanoseconds to 0 succeeds
at both steps; the result has no seconds and no nanoseconds, lies in the instant's minute, is not
after the instant, and is the start of that minute, which a minute key holds. Truncating a minute
key changes nothing, a later instant never truncates to an earlier value, and truncated values
are ordered as the minutes of their instants. -/
theorem truncateToMinute_floor :
    (∀ t : Instant, t.InRange →
      (t.toMoment.withSecond? 0).bind (·.withNanosecond? 0) = some t.toMoment.truncateToMinute ∧
      t.toMoment.truncateToMinute.secs % 60 = 0 ∧ t.toMoment.truncateToMinute.nanos = 0 ∧
      t.toMoment.truncateToMinute.secs / 60 = t.secs / 60 ∧
      t.toMoment.truncateToMinute.le t.toMoment ∧
      t.toMoment.truncateToMinute = t.minute.start.toMoment) ∧
    (∀ m : Minute, m.start.InRange → m.start.toMoment.truncateToMinute = m.start.toMoment) ∧
    ∀ t u : Instant, t.InRange → u.InRange →
      (t.le u → t.toMoment.truncateToMinute.le u.toMoment.truncateToMinute) ∧
      (t.toMoment.truncateToMinute.le u.toMoment.truncateToMinute ↔ t.minute ≤ u.minute) := by
  -- the order of minute starts is the order of the minutes
  have hstart : ∀ a b : Minute, a.start.toMoment.le b.start.toMoment ↔ a ≤ b := by
    intro a b
    simp only [Minute.start_toMoment, Moment.le]
    show _ ↔ a.index ≤ b.index
    omega
  refine ⟨fun t ht => ?_, fun m hm => ?_, fun t u ht hu => ?_⟩
  · rw [Instant.truncateToMinute_eq t ht, Instant.truncate_steps t ht, Minute.start_toMoment]
    have hle := t.minute_start_le
    simp only [Instant.minute, Minute.start, Instant.ofSecs, Instant.le] at hle
    refine ⟨rfl, by simp, rfl, by simp [Instant.minute], ?_, rfl⟩
    simpa [Moment.le, Instant.toMoment, Instant.minute] using hle
  · rw [Instant.truncateToMinute_eq _ hm, Minute.start_minute]
  · rw [Instant.truncateToMinute_eq t ht, Instant.truncateToMinute_eq u hu, hstart]
    exact ⟨Instant.minute_mono t u, Iff.rfl⟩

/-- The earliest representable instant and a leap second in the last representable second: the
first is its own minute's start, the second truncates to the start of the last minute. -/
theorem truncateToMinute_floor_extremes :
    (Instant.ofSecs minSecs).InRange ∧
      (Instant.ofSecs minSecs).toMoment.truncateToMinute = ⟨minSecs, 0⟩ ∧
    Instant.InRange ⟨maxSecs, 1999999999, by decide, fun _ => by decide⟩ ∧
      (Instant.toMoment ⟨maxSecs, 1999999999, by decide, fun _ => by decide⟩).truncateToMinute =
        ⟨maxSecs - 59, 0⟩ := by
  have h₁ : (Instant.ofSecs minSecs).InRange := by decide
  have h₂ : Instant.InRange ⟨maxSecs, 1999999999, by decide, fun _ => by decide⟩ := by decide
  refine ⟨h₁, ?_, h₂, ?_⟩
  · rw [(truncateToMinute_floor.1 _ h₁).2.2.2.2.2]
    decide
  · rw [(truncateToMinute_floor.1 _ h₂).2.2.2.2.2]
    decide

end MinuteWindow.Time
