import MinuteWindow.Pattern.Accept
/-! The values a filter directive asks of a field (`[span{field=value}]`).

A value is read as the first of these that fits it: the boolean `true` or `false`; an unsigned
integer (an optional `+`, then decimal digits, up to `2^64 - 1`); a signed one (an optional `+`
or `-`, then digits, within `-2^63` and `2^63 - 1`); a float (an optional sign, then `inf`,
`infinity` or `nan` in any case, or digits with an optional point and fraction, at least one
digit in all, then an optional exponent: `e` or `E`, an optional sign and at least one digit);
and last a pattern the matcher accepts (`Pattern.accepted`). A value that is none of these makes
its directive invalid. -/
namespace MinuteWindow.Cli

/-- What a field value asks for. -/
inductive MatchValue where
  | boolean (b : Bool)
  | unsigned (n : Nat)
  | signed (i : Int)
  | float
  | pattern (text : String)
  deriving DecidableEq, Repr

/-- The value of decimal digits, if there are some and nothing else. -/
def digitsValue? (cs : List Char) : Option Nat :=
  if cs.isEmpty || !cs.all Char.isDigit then none
  else some (cs.foldl (fun n c => n * 10 + (c.toNat - '0'.toNat)) 0)

/-- Reads an unsigned integer of 64 bits. -/
def unsignedText? (cs : List Char) : Option Nat :=
  let digits := match cs with
    | '+' :: rest => rest
    | _ => cs
  (digitsValue? digits).bind fun n => if n < Nat.pow 2 64 then some n else none

/-- Reads a signed integer of 64 bits. -/
def signedText? (cs : List Char) : Option Int :=
  match cs with
  | '-' :: rest =>
    (digitsValue? rest).bind fun n => if n ≤ Nat.pow 2 63 then some (-(n : Int)) else none
  | '+' :: rest => (digitsValue? rest).bind fun n => if n < Nat.pow 2 63 then some n else none
  | _ => (digitsValue? cs).bind fun n => if n < Nat.pow 2 63 then some n else none

/-- Whether a text is a decimal float: digits, an optional point and fraction, at least one
digit in all, then an optional exponent with at least one digit. -/
def isDecimalFloat (cs : List Char) : Bool :=
  let whole := cs.takeWhile Char.isDigit
  let cs := cs.drop whole.length
  let (fraction, cs) := match cs with
    | '.' :: rest => (rest.takeWhile Char.isDigit, rest.dropWhile Char.isDigit)
    | _ => ([], cs)
  let exponentOk := match cs with
    | [] => true
    | e :: rest =>
      (e == 'e' || e == 'E') &&
        match rest with
        | '+' :: ds | '-' :: ds => (digitsValue? ds).isSome
        | ds => (digitsValue? ds).isSome
  !(whole.isEmpty && fraction.isEmpty) && exponentOk

/-- Whether a text is a float. -/
def isFloatText (cs : List Char) : Bool :=
  let unsigned := match cs with
    | '+' :: rest | '-' :: rest => rest
    | _ => cs
  let word := String.ofList (unsigned.map Char.toLower)
  !unsigned.isEmpty &&
    (word == "inf" || word == "infinity" || word == "nan" || isDecimalFloat unsigned)

/-- Reads a field value, or nothing when it is none of the kinds. -/
def MatchValue.read? (s : String) : Option MatchValue :=
  let cs := s.toList
  if s == "true" then some (.boolean true)
  else if s == "false" then some (.boolean false)
  else match unsignedText? cs with
    | some n => some (.unsigned n)
    | none =>
      match signedText? cs with
      | some i => some (.signed i)
      | none =>
        if isFloatText cs then some .float
        else if Pattern.accepted s then some (.pattern s)
        else none

end MinuteWindow.Cli
