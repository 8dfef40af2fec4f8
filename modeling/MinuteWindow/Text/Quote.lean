import MinuteWindow.Text.Printable
import MinuteWindow.Text.GraphemeExtend
/-! Quoted string literals, as diagnostics and configuration dumps show text.

The text is written between double quotes. A double quote and a backslash are escaped with a
backslash; tab, carriage return, line feed and NUL are written `\t`, `\r`, `\n` and `\0`;
characters that extend a grapheme cluster (combining marks and the like) and characters that are
not printable are written `\u{…}` with the lowest-case hex digits of the code point; everything
else stands for itself, single quotes included. -/
namespace MinuteWindow.Text

/-- Code points written as a hex escape: those that extend a grapheme cluster, and those that
are not printable. -/
def needsHexEscape (c : Char) : Bool := isGraphemeExtend c || !isPrintable c

/-- Lowest-case hex digits of a number, without leading zeros. -/
def hexDigits (n : Nat) : String :=
  String.ofList ((Nat.toDigits 16 n).map Char.toLower)

/-- The escaped form of one character inside a quoted literal. -/
def escapeInQuote (c : Char) : String :=
  if c == '"' then "\\\""
  else if c == '\\' then "\\\\"
  else if c == '\t' then "\\t"
  else if c == '\r' then "\\r"
  else if c == '\n' then "\\n"
  else if c == '\x00' then "\\0"
  else if needsHexEscape c then "\\u\x7b" ++ hexDigits c.toNat ++ "\x7d"
  else String.singleton c

/-- A string as a quoted literal. -/
def quoteLiteral (s : String) : String :=
  "\"" ++ String.join (s.toList.map escapeInQuote) ++ "\""

end MinuteWindow.Text
