import MinuteWindow.Json.Reader
import MinuteWindow.Json.Writer
import MinuteWindow.Text.Blank
import MinuteWindow.Telemetry.Counters
/-! Events and their wire form.

An event is a category and a timestamp text; the timestamp is read only when the event is
counted. On the wire an event message is a JSON object with optional fields `emoji_type`,
`category` and `timestamp` (unknown fields are ignored), or an array of at most three items
standing for those fields in that order. `emoji_type` and `category` must be strings or null.

A message is an event when its category (`emoji_type` if given, else `category`) is not blank
and its timestamp is present and is neither `null`, `false`, a blank string nor a number equal
to zero. A string timestamp is kept as it is, any other as its compact JSON text. The category
is kept as sent, blanks included.

`Event.ofValue?` decodes a value, `Event.ofLine?` a line of JSON text; both count a skipped
message when they give nothing. -/
namespace MinuteWindow
open Json

/-- An event, before its timestamp is read. -/
structure Event where
  category : String
  timestamp : String
  deriving DecidableEq, Repr

/-- An event message as sent. -/
structure Message where
  emojiType : Option String
  category : Option String
  timestamp : Option Value

namespace Message

/-- A field that must be a string or null; absent and null are both nothing. -/
def textField : Option Value → Option (Option String)
  | none => some none
  | some .null => some none
  | some (.string s) => some (some s)
  | some _ => none

/-- A field of any value; null is nothing. -/
def valueField : Option Value → Option Value
  | none => none
  | some .null => none
  | some v => some v

/-- Reads a message from a value: an object by field name, or an array by position. -/
def ofValue? : Value → Option Message
  | .object fs => do
    let e ← textField (fs.lookup "emoji_type")
    let c ← textField (fs.lookup "category")
    return ⟨e, c, valueField (fs.lookup "timestamp")⟩
  | .array items =>
    if 3 < items.length then none
    else do
      let e ← textField items[0]?
      let c ← textField items[1]?
      return ⟨e, c, valueField items[2]?⟩
  | _ => none

/-- The event a message stands for, if any. -/
def toEvent? (m : Message) : Option Event := do
  let category ← m.emojiType <|> m.category
  if Text.isBlankString category then none
  let timestamp ← match m.timestamp with
    | none => none
    | some .null => none
    | some (.bool false) => none
    | some (.string s) => if Text.isBlankString s then none else some s
    | some (.number x) => if x.isZero then none else some x.render
    | some v => some v.render
  return ⟨category, timestamp⟩

end Message

namespace Event
open Telemetry

/-- The event of a decoded JSON value, if it is one. -/
def decode (v : Value) : Option Event := (Message.ofValue? v).bind Message.toEvent?

/-- Decodes a value, counting a skipped message when it is no event. -/
def ofValue? (v : Value) : Metered (Option Event) := do
  let e := decode v
  if e.isNone then skip
  return e

/-- The event of a line of JSON text, if it is one. -/
def decodeLine (line : List UInt8) : Option Event :=
  match Json.read line with
  | .ok v => decode v
  | .error _ => none

/-- Decodes a line of JSON text, counting a skipped message when it is no event. -/
def ofLine? (line : List UInt8) : Metered (Option Event) := do
  let e := decodeLine line
  if e.isNone then skip
  return e

/-- The wire form of an event: an object with its category and timestamp. -/
def toValue (e : Event) : Value :=
  .object [("category", .string e.category), ("timestamp", .string e.timestamp)]

end Event
end MinuteWindow
