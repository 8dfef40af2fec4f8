/-! Checking the dates and times of a TOML document.

A value is a local date `YYYY-MM-DD`, a local time `HH:MM[:SS[.fraction]]`, or a date and a
time joined by `T` or a space (either letter case), which may end with an offset `Z` or
`±HH:MM`. The text is first cut into tokens: runs of digits, the single characters `-`, `:`,
`.`, `T`, a space, `Z` and `+`, and an unknown rest that swallows everything after it.

The checker reads the tokens in order and stops at the first thing that does not fit. Field
widths are checked once a whole date or time has been read (the year before the month before the
day), then the ranges: months 01 to 12, days up to the length of the month (February has 29
days in leap years), hours up to 23, minutes up to 59 and seconds up to 60; offsets have hours
up to 23 and minutes up to 59. Anything left at the end is refused. Each refusal names what was
being read (`date`, `time`, `date-time`, `offset`, or the whole `datetime`) and, mostly, what was
expected there. -/
namespace MinuteWindow.Toml

/-- Tokens of a date-time text. -/
inductive ClockToken where
  | digits (ds : List Char)
  | dash
  | colon
  | dot
  | letterT
  | space
  | letterZ
  | plus
  /-- everything from a character no other token starts with -/
  | unknown (rest : List Char)
  deriving DecidableEq, Repr

/-- Cuts a date-time text into tokens; `fuel` bounds their number. -/
def clockTokens : Nat → List Char → List ClockToken
  | 0, _ => []
  | _, [] => []
  | fuel + 1, c :: rest =>
    if c.isDigit then
      let ds := rest.takeWhile Char.isDigit
      .digits (c :: ds) :: clockTokens fuel (rest.drop ds.length)
    else
      let single : Option ClockToken :=
        if c == '-' then some .dash else if c == ':' then some .colon
        else if c == 'T' || c == 't' then some .letterT else if c == ' ' then some .space
        else if c == 'Z' || c == 'z' then some .letterZ else if c == '+' then some .plus
        else if c == '.' then some .dot else none
      match single with
      | some t => t :: clockTokens fuel rest
      | none => [.unknown (c :: rest)]

/-- Why a date-time text was refused: what was being read, and what was expected there. -/
structure ClockError where
  what : String := "datetime"
  expected : Option String := none
  deriving DecidableEq, Repr

/-- The message of a refusal: `invalid WHAT`, then `, expected …` when there is an expectation. -/
def ClockError.message (e : ClockError) : String :=
  "invalid " ++ e.what ++ match e.expected with
    | some x => ", expected " ++ x
    | none => ""

/-- The reader of date-time tokens. -/
abbrev ClockRead := StateT (List ClockToken) (Except ClockError)

/-- Stops with a refusal. -/
def refuse {α : Type} (what : String) (expected : Option String) : ClockRead α :=
  throw ⟨what, expected⟩

/-- Takes the next token. -/
def nextClockToken : ClockRead (Option ClockToken) := do
  match ← get with
  | [] => return none
  | t :: rest =>
    set rest
    return some t

/-- The next token, left in place. -/
def peekClockToken : ClockRead (Option ClockToken) := return (← get).head?

/-- Takes a run of digits; anything else, or nothing, is refused with `what` and `expected`. -/
def clockDigits (what expected : String) : ClockRead (List Char) := do
  match ← nextClockToken with
  | some (.digits ds) => return ds
  | _ => refuse what (some expected)

/-- Takes one expected token; anything else, or nothing, is refused with `what` and
`expected`. -/
def clockSeparator (t : ClockToken) (what expected : String) : ClockRead Unit := do
  match ← nextClockToken with
  | some u => if u == t then return else refuse what (some expected)
  | none => refuse what (some expected)

/-- The value of a run of digits. -/
def clockValue (ds : List Char) : Nat := ds.foldl (fun n c => n * 10 + (c.toNat - '0'.toNat)) 0

/-- The days of a month of a year. -/
def monthLength (year month : Nat) : Nat :=
  if month == 2 then
    if year % 4 == 0 && (year % 100 != 0 || year % 400 == 0) then 29 else 28
  else if month == 4 || month == 6 || month == 9 || month == 11 then 30
  else 31

/-- Reads the rest of a date after its year digits and dash. -/
def clockDate (year : List Char) : ClockRead Unit := do
  let month ← clockDigits "date" "month"
  clockSeparator .dash "date" "`-` (MM-DD)"
  let day ← clockDigits "date" "day"
  if year.length != 4 then refuse "date" (some "a four-digit year (YYYY)")
  if month.length != 2 then refuse "date" (some "a two-digit month (MM)")
  if day.length != 2 then refuse "date" (some "a two-digit day (DD)")
  let (y, m, d) := (clockValue year, clockValue month, clockValue day)
  if m < 1 || m > 12 then refuse "date" (some "month between 01 and 12")
  let days := monthLength y m
  if d < 1 || d > days then
    refuse "date" (some ("day between 01 and " ++ Nat.repr days))

/-- Reads a time `HH:MM[:SS[.fraction]]`. -/
def clockTime : ClockRead Unit := do
  let hour ← clockDigits "time" "hour"
  clockSeparator .colon "time" "`:` (HH:MM)"
  let minute ← clockDigits "time" "minute"
  let second ← match ← peekClockToken with
    | some .colon => do
      let _ ← nextClockToken
      some <$> clockDigits "time" "second"
    | _ => pure none
  if second.isSome then
    if (← peekClockToken) == some .dot then
      let _ ← nextClockToken
      let _ ← clockDigits "time" "nanosecond"
  if hour.length != 2 then refuse "time" (some "a two-digit hour (HH)")
  if minute.length != 2 then refuse "time" (some "a two-digit minute (MM)")
  if second.any (·.length != 2) then refuse "time" (some "a two-digit second (SS)")
  if clockValue hour > 23 then refuse "time" (some "hour between 00 and 23")
  if clockValue minute > 59 then refuse "time" (some "minute between 00 and 59")
  if second.any (clockValue · > 60) then refuse "time" (some "second between 00 and 60")

/-- Reads an optional offset after a date and a time. -/
def clockOffset : ClockRead Unit := do
  match ← nextClockToken with
  | none => return
  | some .letterZ => return
  | some .plus | some .dash =>
    let hours ← clockDigits "offset" "hour"
    clockSeparator .colon "offset" "`:` (HH:MM)"
    let minutes ← clockDigits "offset" "minute"
    if hours.length != 2 then refuse "offset" (some "a two-digit hour (HH)")
    if minutes.length != 2 then refuse "offset" (some "a two-digit minute (MM)")
    if clockValue hours > 23 then refuse "offset" (some "hours between 00 and 23")
    if clockValue minutes > 59 then refuse "offset" (some "minutes between 00 and 59")
  | some _ => refuse "offset" (some "`Z`, +OFFSET, -OFFSET")

/-- Reads a whole date-time value; `all` is the full token list, to start over for a time. -/
def clockValueText (all : List ClockToken) : ClockRead Unit := do
  let first ← clockDigits "datetime" "year or hour"
  match ← nextClockToken with
  | some .dash =>
    clockDate first
    match ← nextClockToken with
    | some .letterT | some .space =>
      clockTime
      clockOffset
    | some _ => refuse "date-time" (some "`T` between date and time")
    | none => pure ()
  | some .colon =>
    set all
    clockTime
  | _ => refuse "datetime" (some "`-` (YYYY-MM) or `:` (HH:MM)")
  unless (← get).isEmpty do refuse "datetime" none

/-- Checks the text of a date-time value. -/
def checkDatetime (text : List Char) : Except ClockError Unit :=
  let tokens := clockTokens (text.length + 1) text
  match (clockValueText tokens).run tokens with
  | .ok _ => .ok ()
  | .error e => .error e

end MinuteWindow.Toml
