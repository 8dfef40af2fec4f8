import MinuteWindow.Text.Digits
/-! Why JSON text was refused, and where.

A `SyntaxError` names its cause, the byte offset it is reported at, and the path to the value
being read when it arose: object keys and array positions from the outside in. Its message is
the cause followed by the line and column of the offset; the column counts the bytes since the
last line feed. `SyntaxError.pathMessage` adds the path in front (`a.b[0].c: …`) when it names
a key or a position, as the request body reader reports it. -/
namespace MinuteWindow.Json

/-- Causes of a refusal. -/
inductive ErrorCode where
  | eofWhileParsingList
  | eofWhileParsingObject
  | eofWhileParsingString
  | eofWhileParsingValue
  | expectedColon
  | expectedListCommaOrEnd
  | expectedObjectCommaOrEnd
  | expectedSomeIdent
  | expectedSomeValue
  | invalidEscape
  | invalidNumber
  | numberOutOfRange
  | invalidUnicodeCodePoint
  | controlCharacterWhileParsingString
  | keyMustBeAString
  | loneLeadingSurrogateInHexEscape
  | trailingComma
  | trailingCharacters
  | unexpectedEndOfHexEscape
  | recursionLimitExceeded
  deriving DecidableEq, Repr

/-- The text of each cause. -/
def ErrorCode.message : ErrorCode → String
  | .eofWhileParsingList => "EOF while parsing a list"
  | .eofWhileParsingObject => "EOF while parsing an object"
  | .eofWhileParsingString => "EOF while parsing a string"
  | .eofWhileParsingValue => "EOF while parsing a value"
  | .expectedColon => "expected `:`"
  | .expectedListCommaOrEnd => "expected `,` or `]`"
  | .expectedObjectCommaOrEnd => "expected `,` or `\x7d`"
  | .expectedSomeIdent => "expected ident"
  | .expectedSomeValue => "expected value"
  | .invalidEscape => "invalid escape"
  | .invalidNumber => "invalid number"
  | .numberOutOfRange => "number out of range"
  | .invalidUnicodeCodePoint => "invalid unicode code point"
  | .controlCharacterWhileParsingString =>
    "control character (\\u0000-\\u001F) found while parsing a string"
  | .keyMustBeAString => "key must be a string"
  | .loneLeadingSurrogateInHexEscape => "lone leading surrogate in hex escape"
  | .trailingComma => "trailing comma"
  | .trailingCharacters => "trailing characters"
  | .unexpectedEndOfHexEscape => "unexpected end of hex escape"
  | .recursionLimitExceeded => "recursion limit exceeded"

/-- One step into a value: an array position, an object key, or an entry of an object whose key
is not known yet (a fault while reading a key or the punctuation around it). -/
inductive Segment where
  | index (i : Nat)
  | key (k : String)
  | unknown
  deriving DecidableEq, Repr

/-- A refusal: its cause, the byte offset it is reported at, and the path to the value being
read. -/
structure SyntaxError where
  code : ErrorCode
  offset : Nat
  path : List Segment
  deriving DecidableEq, Repr

/-- Line (from 1) and column (bytes since the last line feed) of a byte offset. -/
def lineColumn (bytes : List UInt8) (offset : Nat) : Nat × Nat :=
  let before := bytes.take offset
  let lines := before.count 0x0A
  let lastLine := (before.reverse.takeWhile (· != 0x0A)).length
  (lines + 1, lastLine)

/-- The message of a refusal of `bytes`, with its line and column. -/
def SyntaxError.message (e : SyntaxError) (bytes : List UInt8) : String :=
  let (line, column) := lineColumn bytes e.offset
  e.code.message ++ " at line " ++ Text.decimal line ++ " column " ++ Text.decimal column

/-- The text of a path: keys joined by dots, positions in brackets, an unknown key as `?`. -/
def pathText : List Segment → Bool → String
  | [], _ => ""
  | .index i :: rest, _ => "[" ++ Text.decimal i ++ "]" ++ pathText rest true
  | .key k :: rest, dot => (if dot then "." else "") ++ k ++ pathText rest true
  | .unknown :: rest, dot => (if dot then "." else "") ++ "?" ++ pathText rest true

/-- Whether a path says nothing: it is empty or has unknown keys only. -/
def Segment.isUnknown : Segment → Bool
  | .unknown => true
  | _ => false

/-- The message with the path in front, unless the path says nothing. -/
def SyntaxError.pathMessage (e : SyntaxError) (bytes : List UInt8) : String :=
  if e.path.all Segment.isUnknown then e.message bytes
  else pathText e.path false ++ ": " ++ e.message bytes

end MinuteWindow.Json
