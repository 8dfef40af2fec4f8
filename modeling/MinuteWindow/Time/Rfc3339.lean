import MinuteWindow.Time.Instant
import MinuteWindow.Text.Digits
/-! Writing instants in RFC 3339.

An instant is written `YYYY-MM-DDTHH:MM:SS[.fff|.ffffff|.fffffffff]` followed by its UTC mark.
The fraction is left out when it is zero and otherwise takes the fewest of 3, 6 or 9 digits
that hold it exactly. Years 0 to 9999 take four digits; other years carry their sign and at
least four digits (`+10000`, `-0001`). A leap second is written as second 60.

The UTC mark is `Z` in data and `+00:00` where a minute is shown as text. -/
namespace MinuteWindow.Time
open Text

/-- How the zero UTC offset is written. -/
inductive UtcMark where
  /-- `Z` -/
  | zulu
  /-- `+00:00` -/
  | numeric
  deriving DecidableEq, Repr

/-- The year: four digits within 0 to 9999, else signed with at least four digits. -/
def yearText (y : Int) : String :=
  if 0 ≤ y ∧ y ≤ 9999 then zeroPad 4 y.toNat
  else (if y < 0 then "-" else "+") ++ zeroPad 4 y.natAbs

/-- The fraction of a second: nothing, or 3, 6 or 9 digits, the fewest that are exact. -/
def fractionText (nanos : Nat) : String :=
  if nanos = 0 then ""
  else if nanos % 1000000 = 0 then "." ++ zeroPad 3 (nanos / 1000000)
  else if nanos % 1000 = 0 then "." ++ zeroPad 6 (nanos / 1000)
  else "." ++ zeroPad 9 nanos

/-- The text of a UTC mark. -/
def UtcMark.text : UtcMark → String
  | .zulu => "Z"
  | .numeric => "+00:00"

/-- The RFC 3339 text of an instant. -/
def Instant.toRfc3339 (t : Instant) (mark : UtcMark) : String :=
  let d := t.date
  let sod := t.secondOfDay
  let leap := decide (nanosPerSecond ≤ t.nanos)
  let sec := sod % 60 + (if leap then 1 else 0)
  let frac := if leap then t.nanos - nanosPerSecond else t.nanos
  yearText d.year ++ "-" ++ zeroPad 2 d.month ++ "-" ++ zeroPad 2 d.day ++ "T" ++
    zeroPad 2 (sod / 3600) ++ ":" ++ zeroPad 2 (sod % 3600 / 60) ++ ":" ++ zeroPad 2 sec ++
    fractionText frac ++ mark.text

/-- The RFC 3339 text of the start of a minute. -/
def Minute.toRfc3339 (m : Minute) (mark : UtcMark) : String :=
  m.start.toRfc3339 mark

end MinuteWindow.Time
