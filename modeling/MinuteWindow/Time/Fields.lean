import MinuteWindow.Time.Instant
import MinuteWindow.Text.Blank
/-! Reading a timestamp field by field.

A timestamp text is read into `Fields`: year, month, day, hour, minute, second, fraction and
UTC offset, each optional. Each field is range-checked as it is read (a month is 1 to 12, a
second 0 to 60), and a field read twice must agree with itself. `Fields.toInstant` then
resolves them: a missing field is `notEnough`, a date that does not exist is `outOfRange`, a
local time whose instant falls outside the representable range is `impossible`, and second 60
is a leap second.

The scanners work on characters but measure lengths in UTF-8 bytes where a short input is
told apart from a wrong one: `"é"` holds two bytes, so it is too wrong, not too short, to be
two digits. -/
namespace MinuteWindow.Time

/-- Why a timestamp text was refused. -/
inductive ReadError where
  | outOfRange
  | impossible
  | notEnough
  | invalid
  | tooShort
  | tooLong
  deriving DecidableEq, Repr

/-- The message for each refusal. -/
def ReadError.message : ReadError → String
  | .outOfRange => "input is out of range"
  | .impossible => "no possible date and time matching input"
  | .notEnough => "input is not enough for unique date and time"
  | .invalid => "input contains invalid characters"
  | .tooShort => "premature end of input"
  | .tooLong => "trailing input"

/-- UTF-8 length of a piece of text. -/
def byteLength (cs : List Char) : Nat := cs.foldr (fun c n => c.utf8Size + n) 0

/-- Whether the text holds fewer than `n` bytes. -/
def shorterThan (cs : List Char) (n : Nat) : Bool := byteLength (cs.take n) < n

/-- An ASCII digit. -/
def isDigit (c : Char) : Bool := '0' ≤ c && c ≤ '9'

/-- The value of a run of digits. -/
def digitsValue (ds : List Char) : Nat := ds.foldl (fun n c => n * 10 + (c.toNat - '0'.toNat)) 0

/-- Largest signed 64-bit value: longer numbers are out of range. -/
def int64Max : Nat := 9223372036854775807

/-- Reads `lo` to `hi` digits (`lo ≥ 1`). Fewer than `lo` bytes left is `tooShort`; a
non-digit among the first `lo` is `invalid`. -/
def number (cs : List Char) (lo hi : Nat) : Except ReadError (Nat × List Char) :=
  if shorterThan cs lo then .error .tooShort
  else
    let ds := (cs.take hi).takeWhile isDigit
    if ds.length < lo then .error .invalid
    else if int64Max < digitsValue ds then .error .outOfRange
    else .ok (digitsValue ds, cs.drop ds.length)

/-- Reads one expected character. -/
def expectChar (c : Char) : List Char → Except ReadError (List Char)
  | [] => .error .tooShort
  | d :: rest => if d = c then .ok rest else .error .invalid

/-- Reads a fraction of a second after its point: 1 to 9 digits scaled to nanoseconds;
further digits are read and dropped. -/
def readFraction (cs : List Char) : Except ReadError (Nat × List Char) := do
  let (v, rest) ← number cs 1 9
  let used := cs.length - rest.length
  return (v * Nat.pow 10 (9 - used), rest.dropWhile isDigit)

/-- How the hours and minutes of an offset are separated. -/
inductive Colon where
  /-- exactly one colon -/
  | exact
  /-- any run of colons and blanks, possibly none -/
  | loose
  deriving DecidableEq, Repr

/-- Two digits at the front, if the text holds two bytes. -/
def twoDigits (cs : List Char) : Except ReadError (Char × Char) :=
  if shorterThan cs 2 then .error .tooShort
  else match cs with
    | a :: b :: _ => .ok (a, b)
    | _ => .error .invalid

/-- Reads a UTC offset in seconds: `Z`, `z`, or a sign (`+`, `-` or U+2212) with two-digit
hours and minutes; minutes from 60 up are out of range. -/
def offset (cs : List Char) (colon : Colon) : Except ReadError (Int × List Char) := do
  match cs with
  | 'Z' :: rest => return (0, rest)
  | 'z' :: rest => return (0, rest)
  | _ => pure ()
  let (negative, s) ← match cs with
    | '+' :: r => pure (false, r)
    | '-' :: r => pure (true, r)
    | '−' :: r => pure (true, r)
    | [] => throw ReadError.tooShort
    | _ => throw ReadError.invalid
  let (h1, h2) ← twoDigits s
  unless isDigit h1 && isDigit h2 do throw ReadError.invalid
  let s := s.drop 2
  let s ← match colon with
    | .exact => expectChar ':' s
    | .loose => pure (s.dropWhile fun c => c == ':' || Text.isBlank c)
  let (m1, m2) ← twoDigits s
  unless isDigit m2 && '0' ≤ m1 && m1 ≤ '9' do throw ReadError.invalid
  if '6' ≤ m1 then throw ReadError.outOfRange
  let secs : Int := (digitsValue [h1, h2] * 60 + digitsValue [m1, m2]) * 60
  return (if negative then -secs else secs, s.drop 2)

/-- Timestamp fields read so far. -/
structure Fields where
  year : Option Int := none
  month : Option Nat := none
  day : Option Nat := none
  hour : Option Nat := none
  minute : Option Nat := none
  second : Option Nat := none
  nanosecond : Option Nat := none
  offset : Option Int := none
  deriving Repr

/-- Sets a field once; a second value must agree with the first. -/
def setOnce {α : Type} [DecidableEq α] (old : Option α) (v : α) : Except ReadError (Option α) :=
  match old with
  | none => .ok (some v)
  | some w => if w = v then .ok (some v) else .error .impossible

/-- Which field a number is read into. -/
inductive Field where
  | year
  | month
  | day
  | hour
  | minute
  | second
  deriving DecidableEq, Repr

/-- Years a 32-bit field holds. -/
def yearFits (v : Int) : Bool := -2147483648 ≤ v && v ≤ 2147483647

/-- Records a number in its field, after the field's range check. -/
def Fields.set (f : Fields) : Field → Int → Except ReadError Fields
  | .year, v => if yearFits v then return { f with year := ← setOnce f.year v }
      else throw .outOfRange
  | .month, v => if 1 ≤ v ∧ v ≤ 12 then return { f with month := ← setOnce f.month v.toNat }
      else throw .outOfRange
  | .day, v => if 1 ≤ v ∧ v ≤ 31 then return { f with day := ← setOnce f.day v.toNat }
      else throw .outOfRange
  | .hour, v => if 0 ≤ v ∧ v ≤ 23 then return { f with hour := ← setOnce f.hour v.toNat }
      else throw .outOfRange
  | .minute, v => if 0 ≤ v ∧ v ≤ 59 then return { f with minute := ← setOnce f.minute v.toNat }
      else throw .outOfRange
  | .second, v => if 0 ≤ v ∧ v ≤ 60 then return { f with second := ← setOnce f.second v.toNat }
      else throw .outOfRange

/-- Records the nanoseconds of the second. -/
def Fields.setNanos (f : Fields) (v : Nat) : Except ReadError Fields :=
  if v ≤ 999999999 then return { f with nanosecond := ← setOnce f.nanosecond v }
  else throw .outOfRange

/-- Records the UTC offset in seconds. -/
def Fields.setOffset (f : Fields) (v : Int) : Except ReadError Fields :=
  return { f with offset := ← setOnce f.offset v }

/-- Earliest and latest years of a representable date. -/
def minYear : Int := -262143
def maxYear : Int := 262142

/-- The day number of the date fields. -/
def Fields.days (f : Fields) : Except ReadError Int :=
  match f.year, f.month, f.day with
  | some y, some m, some d =>
    let date : Date := ⟨y, m, d⟩
    if minYear ≤ y ∧ y ≤ maxYear ∧ date.Valid then .ok date.toDays else .error .outOfRange
  | _, _, _ => .error .notEnough

/-- Seconds since midnight and nanoseconds of the time fields; second 60 is a leap second,
kept as second 59 with a nanosecond part past one second. -/
def Fields.timeOfDay (f : Fields) : Except ReadError (Nat × Nat) := do
  let some h := f.hour | throw .notEnough
  let some m := f.minute | throw .notEnough
  let (s, leap) ← match f.second.getD 0 with
    | 60 => pure (59, nanosPerSecond)
    | s => if s ≤ 59 then pure (s, 0) else throw .outOfRange
  let ns ← match f.nanosecond with
    | none => pure 0
    | some v => if f.second.isSome then pure v else throw .notEnough
  return (h * 3600 + m * 60 + s, leap + ns)

/-- The instant at `secs` and `nanos`, if it is representable. -/
def Instant.ofParts? (secs : Int) (nanos : Nat) : Except ReadError Instant :=
  if h : nanos < 2 * nanosPerSecond ∧ (nanosPerSecond ≤ nanos → secs % 60 = 59) then
    if minSecs ≤ secs ∧ secs ≤ maxSecs then .ok ⟨secs, nanos, h.1, h.2⟩ else .error .outOfRange
  else .error .outOfRange

/-- The local date and time the fields name, as seconds and nanoseconds. A bad date is
reported before a bad time. -/
def Fields.local (f : Fields) : Except ReadError (Int × Nat) :=
  match f.days, f.timeOfDay with
  | .ok d, .ok (s, ns) => .ok (d * 86400 + s, ns)
  | .error e, _ => .error e
  | _, .error e => .error e

/-- The instant named by the fields, taken at UTC offset `off`. A local time that exists but
whose instant falls outside the representable range matches no instant: `impossible`. -/
def Fields.toInstantAt (f : Fields) (off : Int) : Except ReadError Instant := do
  let (secs, ns) ← f.local
  if -86400 < off ∧ off < 86400 then
    match Instant.ofParts? (secs - off) ns with
    | .ok t => return t
    | .error _ => throw .impossible
  else throw .outOfRange

/-- The instant named by the fields and their own offset. -/
def Fields.toInstant (f : Fields) : Except ReadError Instant :=
  match f.offset with
  | none => .error .notEnough
  | some off => f.toInstantAt off

end MinuteWindow.Time
