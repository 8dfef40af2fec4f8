import MinuteWindow.Time.Reading
import MinuteWindow.Time.Rfc3339
import MinuteWindow.Json.Writer
/-! Instants and minutes in JSON data.

An instant is written as its RFC 3339 text with `Z`. A minute is read from a JSON string by the
loose RFC 3339 reader and truncated to its minute; any other JSON value is refused with the
kind of value it is. -/
namespace MinuteWindow.Time
open Json

/-- How a value that is not the expected kind is described: `integer 5`, `null`, `map`. -/
def unexpectedText : Value → String
  | .null => "null"
  | .bool b => "boolean `" ++ (if b then "true" else "false") ++ "`"
  | .number (.int i) => "integer `" ++ Text.decimalInt i ++ "`"
  | .number (.float x) => "floating point `" ++ floatNotation.renderBinary64 x ++ "`"
  | .string s => "string " ++ quote s
  | .array _ => "sequence"
  | .object _ => "map"

/-- The refusal of a value of the wrong kind. -/
def invalidType (v : Value) (expected : String) : String :=
  "invalid type: " ++ unexpectedText v ++ ", expected " ++ expected

/-- Reads a minute from JSON data: an RFC 3339 string, truncated to its minute. -/
def Minute.ofJson? (v : Value) : Except String Minute :=
  match v with
  | .string s => match readRfc3339Loose s.toList with
    | .ok t => .ok t.minute
    | .error e => .error e.message
  | other => .error (invalidType other "an RFC 3339 formatted date and time string")

/-- A minute in JSON data. -/
def Minute.toJson (m : Minute) : Value := .string (m.toRfc3339 .zulu)

end MinuteWindow.Time
