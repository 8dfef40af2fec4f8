import MinuteWindow.Time.Instant
/-! Series of closed minutes.

A series lists closed minutes with their counts, oldest first. Closing a minute into a series
merges it into the last entry when that entry has the same minute and appends it otherwise; a
minute older than the last entry is refused and leaves the series as it was. Eviction removes
entries from the front while their minute is at or before a cutoff.

`evictThrough_length`: what eviction keeps and what it counts add up to the series. -/
namespace MinuteWindow.Window
open Time

/-- A closed minute and how many events it held. -/
structure Entry where
  minute : Minute
  count : Nat
  deriving DecidableEq, Repr

/-- Closed minutes, oldest first. -/
abbrev Series := List Entry

namespace Series

/-- Closes `count` events at minute `m` into the series, or refuses a minute older than the
last entry. -/
def push? (s : Series) (m : Minute) (count : Nat) : Option Series :=
  match s.getLast? with
  | none => some [⟨m, count⟩]
  | some last =>
    if last.minute = m then some (s.dropLast ++ [⟨m, last.count + count⟩])
    else if m < last.minute then none
    else some (s ++ [⟨m, count⟩])

/-- Removes the entries at or before `cutoff` from the front, and counts them. -/
def evictThrough (s : Series) (cutoff : Minute) : Series × Nat :=
  let kept := s.dropWhile fun e => decide (e.minute ≤ cutoff)
  (kept, s.length - kept.length)

/-- Sum of the counts. -/
def total (s : Series) : Nat := s.foldr (fun e n => e.count + n) 0

theorem evictThrough_length (s : Series) (cutoff : Minute) :
    (s.evictThrough cutoff).1.length + (s.evictThrough cutoff).2 = s.length := by
  have := (List.dropWhile_sublist (l := s) fun e : Entry => decide (e.minute ≤ cutoff)).length_le
  simp only [evictThrough]
  omega

end Series
end MinuteWindow.Window
