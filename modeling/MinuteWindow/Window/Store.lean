import MinuteWindow.Window.Keyed
import MinuteWindow.Window.Series
/-! The window store.

The store holds the open minute and its bucket (a count per category and their total), the
totals series and one series per category. `Store.record` counts an event in the open minute;
an event from a later minute first closes the open one (`Store.rotate`) and then opens its own.
An event from the open minute or an earlier one is counted in the open minute.

Closing pushes the bucket into the series (category by category, then the total), empties it,
and evicts from every series the entries at or before the closed minute less the window,
forgetting categories whose series becomes empty. The open minute itself stays open, so a
later event of the same minute merges into the closed entry at the next close. Closing an
empty bucket does nothing.

A `Rotation` reports what one close did: the minute closed, the pushes made, the entries
evicted and the pushes refused. -/
namespace MinuteWindow.Window
open Time

/-- What one close did. -/
structure Rotation where
  minute : Option Minute := none
  closed : Nat := 0
  evicted : Nat := 0
  dropped : Nat := 0
  deriving DecidableEq, Repr

/-- A close that did nothing. -/
def Rotation.idle : Rotation := { minute := none }

/-- The open minute, its bucket and the retained series. -/
structure Store where
  openMinute : Option Minute := none
  bucket : Keyed Nat := {}
  bucketTotal : Nat := 0
  totals : Series := []
  byCategory : Keyed Series := {}
  deriving Repr

namespace Store

/-- Pushes one category's count into its series, creating the series if needed. -/
def pushCategory (m : Minute) (acc : Keyed Series × Rotation) (kv : String × Nat) :
    Keyed Series × Rotation :=
  let (series, rot) := acc
  let (category, count) := kv
  if count = 0 then acc
  else
    let old := (series.find? category).getD []
    match old.push? m count with
    | some s => (series.alter category fun _ => s, { rot with closed := rot.closed + 1 })
    | none => (series.alter category fun _ => old, { rot with dropped := rot.dropped + 1 })

/-- Evicts every series through `cutoff`, forgetting categories left empty. -/
def evict (s : Store) (cutoff : Minute) : Store × Nat :=
  let (totals, n) := s.totals.evictThrough cutoff
  let counted := s.byCategory.entries.map fun (_, series) => (series.evictThrough cutoff).2
  let byCategory := s.byCategory.prune fun series =>
    let kept := (series.evictThrough cutoff).1
    if kept.isEmpty then none else some kept
  ({ s with totals, byCategory }, n + counted.foldr (· + ·) 0)

/-- Closes the open minute's bucket into the series and evicts what fell out of a window of
`w` minutes. -/
def rotate (s : Store) (w : Nat) : Store × Rotation :=
  match s.openMinute with
  | none => (s, Rotation.idle)
  | some m =>
    if s.bucketTotal = 0 then (s, Rotation.idle)
    else
      let (byCategory, rot) := s.bucket.entries.foldl (pushCategory m) (s.byCategory, { minute := some m })
      let (totals, rot) := match s.totals.push? m s.bucketTotal with
        | some t => (t, { rot with closed := rot.closed + 1 })
        | none => (s.totals, { rot with dropped := rot.dropped + 1 })
      let s := { s with byCategory, totals, bucket := {}, bucketTotal := 0 }
      let (s, evicted) := s.evict (m.back w)
      (s, { rot with evicted })

/-- Counts one event of `category` at minute `key`, closing the open minute first when `key`
is later. -/
def record (s : Store) (category : String) (key : Minute) (w : Nat) : Store × Rotation :=
  let (s, rot) := match s.openMinute with
    | none => ({ s with openMinute := some key }, Rotation.idle)
    | some o =>
      if o < key then
        let (s, rot) := s.rotate w
        ({ s with openMinute := some key }, rot)
      else (s, Rotation.idle)
  ({ s with bucket := s.bucket.alter category (fun n => n.getD 0 + 1),
            bucketTotal := s.bucketTotal + 1 }, rot)

end Store
end MinuteWindow.Window
