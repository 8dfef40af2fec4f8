import MinuteWindow.Decimal.Shortest
/-! Writing JSON compactly.

No whitespace is written. Strings escape the quote and the backslash, write backspace, form
feed, line feed, carriage return and tab as two-character escapes and every other control
character below U+0020 as `\u00XX` with lowercase hex; everything else, U+007F and U+2028
included, is written as it is. Integers are written in decimal and floats with their shortest
digits (`Json.floatNotation`): positionally for decimal exponents from -5 to 15, with `.0` on
integral values, and otherwise as `d.ddde±k`. -/
namespace MinuteWindow.Json

/-- Floats in JSON text. -/
def floatNotation : Decimal.Notation :=
  { positionalFrom := some (-5), positionalBelow := some 16, integralSuffix := ".0", plusSign := "+" }

/-- A lowercase hex digit. -/
def hexDigit (n : Nat) : Char := (Nat.toDigits 16 (n % 16)).headD '0'

/-- The escaped form of one character inside a string. -/
def escapeChar (c : Char) : List Char :=
  match c with
  | '"' => ['\\', '"']
  | '\\' => ['\\', '\\']
  | '\n' => ['\\', 'n']
  | '\r' => ['\\', 'r']
  | '\t' => ['\\', 't']
  | '\x08' => ['\\', 'b']
  | '\x0c' => ['\\', 'f']
  | c => if c.toNat < 0x20 then ['\\', 'u', '0', '0', hexDigit (c.toNat / 16), hexDigit c.toNat]
      else [c]

/-- A string literal. -/
def quote (s : String) : String := String.ofList ('"' :: (s.toList.flatMap escapeChar ++ ['"']))

/-- The text of a number. -/
def Number.render : Number → String
  | .int i => Text.decimalInt i
  | .float x => floatNotation.renderBinary64 x

mutual
/-- The compact text of a value. -/
def Value.render : Value → String
  | .null => "null"
  | .bool true => "true"
  | .bool false => "false"
  | .number n => n.render
  | .string s => quote s
  | .array items => "[" ++ renderItems items ++ "]"
  | .object fields => "\x7b" ++ renderFields fields ++ "\x7d"

/-- Array items, separated by commas. -/
def renderItems : List Value → String
  | [] => ""
  | [v] => v.render
  | v :: rest => v.render ++ "," ++ renderItems rest

/-- Object fields, separated by commas. -/
def renderFields : List (String × Value) → String
  | [] => ""
  | [(k, v)] => quote k ++ ":" ++ v.render
  | (k, v) :: rest => quote k ++ ":" ++ v.render ++ "," ++ renderFields rest
end

end MinuteWindow.Json
