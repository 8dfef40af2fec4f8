import MinuteWindow.Time.Fields
/-! Reading timestamps.

Four readers share the field scanners of `Fields`:

* `readRfc3339` is strict RFC 3339: a four-digit year, two-digit fields, `T`, `t` or a space
  between date and time, an optional fraction, and `Z`, `z` or `±HH:MM` with hours below 24;
  nothing may follow.
* `readRfc3339Loose` is the reading used for minute keys in data: any year with a sign, blanks
  allowed around the date and time separators, a `UTC` mark or an offset with a loose colon, and
  trailing blanks.
* `readNaive` reads one of four naive layouts, taken as UTC.
* `Instant.parse?` tries them in turn on the trimmed text and falls back to a count of unix
  seconds.

A layout is a list of `Piece`s. A number piece skips leading blanks; an unsigned year takes at
most four digits and a signed one any number; every other field at most two. -/
namespace MinuteWindow.Time

/-- One element of a layout. -/
inductive Piece where
  /-- this exact character -/
  | literal (c : Char)
  /-- any run of blanks, possibly empty -/
  | blank
  /-- a number, into a field -/
  | number (f : Field)
  /-- an optional `.` and fraction of a second -/
  | fraction
  deriving DecidableEq, Repr

/-- Reads a field's number after leading blanks. A year may carry a sign, and then any number
of digits. -/
def readNumber (f : Field) (cs : List Char) : Except ReadError (Int × List Char) :=
  let cs := Text.trimStart cs
  match f, cs with
  | .year, '-' :: rest => do let (v, r) ← number rest 1 rest.length; return (-(v : Int), r)
  | .year, '+' :: rest => do let (v, r) ← number rest 1 rest.length; return ((v : Int), r)
  | .year, _ => do let (v, r) ← number cs 1 4; return ((v : Int), r)
  | _, _ => do let (v, r) ← number cs 1 2; return ((v : Int), r)

/-- Reads one piece of a layout. -/
def Piece.read (fs : Fields) (cs : List Char) : Piece → Except ReadError (Fields × List Char)
  | .literal c => do return (fs, ← expectChar c cs)
  | .blank => return (fs, Text.trimStart cs)
  | .number f => do
    let (v, rest) ← readNumber f cs
    return (← fs.set f v, rest)
  | .fraction =>
    match cs with
    | '.' :: rest => do
      let (v, rest) ← readFraction rest
      return (← fs.setNanos v, rest)
    | _ => return (fs, cs)

/-- Reads the pieces of a layout in order; the text after them is returned. -/
def readPieces (fs : Fields) (cs : List Char) : List Piece → Except ReadError (Fields × List Char)
  | [] => return (fs, cs)
  | p :: ps => do
    let (fs, cs) ← p.read fs cs
    readPieces fs cs ps

/-- Reads a whole text by a layout: nothing may follow. -/
def readLayout (cs : List Char) (ps : List Piece) : Except ReadError Fields := do
  let (fs, rest) ← readPieces {} cs ps
  if rest.isEmpty then return fs else throw .tooLong

/-- `%Y-%m-%dT%H:%M:%S%.f` -/
def naiveT : List Piece :=
  [.number .year, .literal '-', .number .month, .literal '-', .number .day, .literal 'T',
    .number .hour, .literal ':', .number .minute, .literal ':', .number .second, .fraction]

/-- `%Y-%m-%d %H:%M:%S%.f` -/
def naiveSpace : List Piece :=
  [.number .year, .literal '-', .number .month, .literal '-', .number .day, .blank,
    .number .hour, .literal ':', .number .minute, .literal ':', .number .second, .fraction]

/-- `%Y-%m-%dT%H:%M` -/
def naiveTMinutes : List Piece :=
  [.number .year, .literal '-', .number .month, .literal '-', .number .day, .literal 'T',
    .number .hour, .literal ':', .number .minute]

/-- `%Y-%m-%d %H:%M` -/
def naiveSpaceMinutes : List Piece :=
  [.number .year, .literal '-', .number .month, .literal '-', .number .day, .blank,
    .number .hour, .literal ':', .number .minute]

/-- The naive layouts, in the order they are tried. -/
def naiveLayouts : List (List Piece) := [naiveT, naiveSpace, naiveTMinutes, naiveSpaceMinutes]

/-- Reads a naive date and time, taken as UTC. -/
def readNaive (cs : List Char) (layout : List Piece) : Except ReadError Instant := do
  (← readLayout cs layout).toInstantAt 0

/-- Reads the separator between date and time: `T`, `t` or a space. -/
def dateTimeSeparator : List Char → Except ReadError (List Char)
  | 'T' :: rest | 't' :: rest | ' ' :: rest => .ok rest
  | [] => .error .tooShort
  | _ => .error .invalid

/-- Largest RFC 3339 offset: 23 hours 59 minutes. -/
def maxOffset : Int := (23 * 60 + 59) * 60

/-- Reads a two-digit field. -/
def twoDigitField (fs : Fields) (f : Field) (cs : List Char) : Except ReadError (Fields × List Char) := do
  let (v, rest) ← number cs 2 2
  return (← fs.set f v, rest)

/-- Strict RFC 3339. -/
def readRfc3339 (cs : List Char) : Except ReadError Instant := do
  let (y, s) ← number cs 4 4
  let fs ← ({} : Fields).set .year y
  let s ← expectChar '-' s
  let (fs, s) ← twoDigitField fs .month s
  let s ← expectChar '-' s
  let (fs, s) ← twoDigitField fs .day s
  let s ← dateTimeSeparator s
  let (fs, s) ← twoDigitField fs .hour s
  let s ← expectChar ':' s
  let (fs, s) ← twoDigitField fs .minute s
  let s ← expectChar ':' s
  let (fs, s) ← twoDigitField fs .second s
  let (fs, s) ← match s with
    | '.' :: rest => do
      let (v, rest) ← readFraction rest
      pure (← fs.setNanos v, rest)
    | _ => pure (fs, s)
  let (off, s) ← offset s .exact
  unless -maxOffset ≤ off ∧ off ≤ maxOffset do throw .outOfRange
  let fs ← fs.setOffset off
  unless s.isEmpty do throw .tooLong
  fs.toInstant

/-- Date pieces of the loose reading. -/
def looseDate : List Piece :=
  [.number .year, .blank, .literal '-', .number .month, .blank, .literal '-', .number .day]

/-- Time pieces of the loose reading. -/
def looseTime : List Piece :=
  [.number .hour, .blank, .literal ':', .number .minute, .blank, .literal ':', .number .second,
    .fraction, .blank]

/-- Whether the text starts with `UTC` in any case. -/
def startsWithUtc : List Char → Bool
  | a :: b :: c :: _ => a.toUpper == 'U' && b.toUpper == 'T' && c.toUpper == 'C'
  | _ => false

/-- Loose RFC 3339, as minute keys are read from data. -/
def readRfc3339Loose (cs : List Char) : Except ReadError Instant := do
  let (fs, s) ← readPieces {} cs looseDate
  let s ← dateTimeSeparator s
  let (fs, s) ← readPieces fs s looseTime
  let s := Text.trimStart s
  let (off, s) ← if startsWithUtc s then pure (0, s.drop 3) else offset s .loose
  let fs ← fs.setOffset off
  unless (Text.trimStart s).isEmpty do throw .tooLong
  fs.toInstant

/-- A signed 64-bit decimal integer: an optional sign and at least one ASCII digit. -/
def readInt64 (cs : List Char) : Option Int :=
  let (negative, ds) := match cs with
    | '-' :: rest => (true, rest)
    | '+' :: rest => (false, rest)
    | _ => (false, cs)
  if ds.isEmpty || !ds.all isDigit then none
  else
    let v := digitsValue ds
    if negative then (if v ≤ int64Max + 1 then some (-(v : Int)) else none)
    else (if v ≤ int64Max then some (v : Int) else none)

/-- The first layout in a list that reads the text. -/
def firstNaive (cs : List Char) : List (List Piece) → Option Instant
  | [] => none
  | l :: ls => match readNaive cs l with
    | .ok t => some t
    | .error _ => firstNaive cs ls

/-- A lenient timestamp: trimmed, then RFC 3339, then a naive layout as UTC, then unix
seconds. Empty text and instants out of range read as nothing. -/
def Instant.parse? (raw : String) : Option Instant :=
  let cs := Text.trim raw.toList
  if cs.isEmpty then none
  else match readRfc3339 cs with
    | .ok t => some t
    | .error _ =>
      match firstNaive cs naiveLayouts with
      | some t => some t
      | none => (readInt64 cs).bind fun secs =>
          if minSecs ≤ secs ∧ secs ≤ maxSecs then some (Instant.ofSecs secs) else none

end MinuteWindow.Time
