import MinuteWindow.Json.Error
import MinuteWindow.Json.Value
import MinuteWindow.Text.Utf8
/-! The tokens of JSON text: literals, numbers and strings.

Each reader takes the bytes from its token on and returns the token's value with the bytes
after it, or a `Fault`: a cause and the byte offset it is reported at. `n` is the length of the
whole text, so the offset of a rest `s` is `n - s.length`.

Numbers: an integer is kept exactly when it fits 64 bits (unsigned, or signed when negative);
`-0` and everything else become a binary64 float. The float is composed from a significand of
at most 64 bits and a decimal exponent by multiplying or dividing by an exact power of ten,
once, or in steps of `10^308` for tiny values; digits past 64 bits of significand only move
the exponent. A product that overflows is out of range, and so is an exponent past 32 bits on
a nonzero number.

Strings: escapes are decoded, a control character below U+0020 is refused, a `\u` escape of a
surrogate must pair a leading with a trailing one, and the bytes must be well-formed UTF-8. -/
namespace MinuteWindow.Json

/-- A cause and the byte offset it is reported at. -/
abbrev Fault := ErrorCode × Nat

/-- An ASCII digit byte. -/
def isDigitByte (b : UInt8) : Bool := 0x30 ≤ b && b ≤ 0x39

/-- The value of a digit byte. -/
def digitOf (b : UInt8) : Nat := (b - 0x30).toNat

/-- Largest unsigned 64-bit value. -/
def u64Max : Nat := 18446744073709551615

/-- Largest signed 32-bit value. -/
def i32Max : Nat := 2147483647

/-- Clamps to the signed 32-bit range. -/
def clampI32 (x : Int) : Int := max (-2147483648) (min x 2147483647)

/-- The binary64 nearest to `m · 2^e2` (`m > 0`), ties to even, for a normal result. -/
def nearestBinary64 (m : Nat) (e2 : Int) : Float :=
  let l := Nat.log2 m
  let (mant, exp) : Nat × Int :=
    if l ≤ 52 then (m <<< (52 - l), e2 + l)
    else
      let sh := l - 52
      let q := m >>> sh
      let r := m % Nat.pow 2 sh
      let half := Nat.pow 2 (sh - 1)
      let q' := if r > half || (r == half && q % 2 == 1) then q + 1 else q
      if q' == Nat.pow 2 53 then (Nat.pow 2 52, e2 + l + 1) else (q', e2 + l)
  Float.ofBits ((((exp + 1023).toNat <<< 52) ||| (mant - Nat.pow 2 52)).toUInt64)

/-- `10^k` as the nearest binary64. -/
def pow10 (k : Nat) : Float := nearestBinary64 (Nat.pow 10 k) 0

/-- `f · 10^e`, or nothing when it overflows. -/
def scaleByPow10 (f : Float) (e : Int) : Option Float :=
  if e.natAbs ≤ 308 then
    if 0 ≤ e then
      let g := f * pow10 e.natAbs
      if g.isInf then none else some g
    else some (f / pow10 e.natAbs)
  else if f == 0 then some f
  else if 0 ≤ e then none
  else scaleByPow10 (f / pow10 308) (e + 308)
termination_by e.natAbs
decreasing_by omega

/-- A zero of the given sign. -/
def signedZero (positive : Bool) : Number :=
  .float ⟨if positive then 0 else 0x8000000000000000⟩

/-- The float `±sig · 10^e`, ending at `s`. -/
def composeFloat (n : Nat) (positive : Bool) (sig : Nat) (e : Int) (s : List UInt8) :
    Except Fault (Number × List UInt8) :=
  match scaleByPow10 sig.toUInt64.toFloat e with
  | none => .error (.numberOutOfRange, n - s.length)
  | some f => .ok (.float ⟨(if positive then f else -f).toBits⟩, s)

/-- Bytes past the leading digits. -/
def skipDigits (s : List UInt8) : List UInt8 := s.dropWhile isDigitByte

/-- Reads the digits of an exponent, `exp` so far. -/
def exponentDigits (n : Nat) (positive : Bool) (sig : Nat) (start : Int) (up : Bool)
    (exp : Nat) : List UInt8 → Except Fault (Number × List UInt8)
  | d :: rest =>
    if isDigitByte d then
      if exp * 10 + digitOf d > i32Max then
        -- an exponent past 32 bits: out of range upward, zero downward
        if sig ≠ 0 && up then .error (.numberOutOfRange, n - rest.length)
        else .ok (signedZero positive, skipDigits rest)
      else exponentDigits n positive sig start up (exp * 10 + digitOf d) rest
    else composeFloat n positive sig (clampI32 (if up then start + exp else start - exp)) (d :: rest)
  | [] => composeFloat n positive sig (clampI32 (if up then start + exp else start - exp)) []

/-- Reads an exponent after its `e`: a sign, then at least one digit. -/
def exponentPart (n : Nat) (positive : Bool) (sig : Nat) (start : Int) (s : List UInt8) :
    Except Fault (Number × List UInt8) :=
  let (up, s) := match s with
    | 0x2B :: r => (true, r)
    | 0x2D :: r => (false, r)
    | _ => (true, s)
  match s with
  | [] => .error (.eofWhileParsingValue, n)
  | c :: rest =>
    if isDigitByte c then exponentDigits n positive sig start up (digitOf c) rest
    else .error (.invalidNumber, n - rest.length)

/-- Whether a byte starts an exponent. -/
def isExponentMark (b : UInt8) : Bool := b == 0x65 || b == 0x45

/-- After the digits of a float: an exponent, or the end of the number. -/
def afterFraction (n : Nat) (positive : Bool) (sig : Nat) (e : Int) (s : List UInt8) :
    Except Fault (Number × List UInt8) :=
  match s with
  | b :: rest => if isExponentMark b then exponentPart n positive sig e rest
      else composeFloat n positive sig e s
  | [] => composeFloat n positive sig e []

/-- Offset of a fault reported at the byte just read ahead, if any. -/
def peekOffset (n : Nat) : List UInt8 → Nat
  | [] => n
  | _ :: rest => n - rest.length

/-- Reads the digits after a point, `after` of them so far, into the significand. -/
def fractionDigits (n : Nat) (positive : Bool) (sig : Nat) (before : Int) (after : Nat) :
    List UInt8 → Except Fault (Number × List UInt8)
  | d :: rest =>
    if isDigitByte d then
      if sig * 10 + digitOf d > u64Max then
        -- the significand is full: later digits only lengthen the fraction
        afterFraction n positive sig (before - after) (skipDigits (d :: rest))
      else fractionDigits n positive (sig * 10 + digitOf d) before (after + 1) rest
    else if after = 0 then .error (.invalidNumber, peekOffset n (d :: rest))
    else afterFraction n positive sig (before - after) (d :: rest)
  | [] => if after = 0 then .error (.eofWhileParsingValue, n)
      else afterFraction n positive sig (before - after) []

/-- Digits of an integer past 64 bits: each one raises the exponent. -/
def longInteger (n : Nat) (positive : Bool) (sig : Nat) (extra : Nat) :
    List UInt8 → Except Fault (Number × List UInt8)
  | d :: rest =>
    if isDigitByte d then longInteger n positive sig (extra + 1) rest
    else if d == 0x2E then fractionDigits n positive sig extra 0 rest
    else if isExponentMark d then exponentPart n positive sig extra rest
    else composeFloat n positive sig extra (d :: rest)
  | [] => composeFloat n positive sig extra []

/-- An integer `±sig`: kept exact when it fits, a float otherwise (and for `-0`). -/
def integerValue (positive : Bool) (sig : Nat) : Number :=
  if positive then .int sig
  else if sig = 0 ∨ Nat.pow 2 63 < sig then .float ⟨(-(sig.toUInt64.toFloat)).toBits⟩
  else .int (-(sig : Int))

/-- After the digits of an integer: a fraction, an exponent, or the end. -/
def afterInteger (n : Nat) (positive : Bool) (sig : Nat) (s : List UInt8) :
    Except Fault (Number × List UInt8) :=
  match s with
  | 0x2E :: rest => fractionDigits n positive sig 0 0 rest
  | b :: rest => if isExponentMark b then exponentPart n positive sig 0 rest
      else .ok (integerValue positive sig, s)
  | [] => .ok (integerValue positive sig, [])

/-- Reads the digits of an integer into the significand while it fits 64 bits. -/
def integerDigits (n : Nat) (positive : Bool) (sig : Nat) :
    List UInt8 → Except Fault (Number × List UInt8)
  | d :: rest =>
    if isDigitByte d then
      if sig * 10 + digitOf d > u64Max then longInteger n positive sig 0 (d :: rest)
      else integerDigits n positive (sig * 10 + digitOf d) rest
    else afterInteger n positive sig (d :: rest)
  | [] => afterInteger n positive sig []

/-- Reads a number from its first digit (after the minus sign of a negative one). A leading
zero stands alone. -/
def readNumber (n : Nat) (positive : Bool) : List UInt8 → Except Fault (Number × List UInt8)
  | [] => .error (.eofWhileParsingValue, n)
  | c :: rest =>
    if c == 0x30 then
      match rest with
      | d :: _ => if isDigitByte d then .error (.invalidNumber, n - rest.length + 1)
          else afterInteger n positive 0 rest
      | [] => afterInteger n positive 0 []
    else if isDigitByte c then integerDigits n positive (digitOf c) rest
    else .error (.invalidNumber, n - rest.length)

/-- Reads the rest of a literal after its first byte. -/
def readIdent (n : Nat) : List UInt8 → List UInt8 → Except Fault (List UInt8)
  | [], s => .ok s
  | _ :: _, [] => .error (.eofWhileParsingValue, n)
  | e :: es, b :: rest => if b == e then readIdent n es rest else .error (.expectedSomeIdent, n - rest.length)

/-- The value of a hex digit byte. -/
def hexValue (b : UInt8) : Option Nat :=
  if 0x30 ≤ b && b ≤ 0x39 then some (b - 0x30).toNat
  else if 0x61 ≤ b && b ≤ 0x66 then some ((b - 0x61).toNat + 10)
  else if 0x41 ≤ b && b ≤ 0x46 then some ((b - 0x41).toNat + 10)
  else none

/-- The value of four hex digit bytes. -/
def hex4 (a b c d : UInt8) : Option Nat := do
  return (← hexValue a) * 4096 + (← hexValue b) * 256 + (← hexValue c) * 16 + (← hexValue d)

/-- The UTF-8 bytes of a scalar value. -/
def scalarBytes (cp : Nat) : List UInt8 := Text.encodeChar (Char.ofNat cp)

/-- The byte after an escape's backslash, as the byte it stands for. -/
def simpleEscape (b : UInt8) : Option UInt8 :=
  match b with
  | 0x22 => some 0x22
  | 0x5C => some 0x5C
  | 0x2F => some 0x2F
  | 0x62 => some 0x08
  | 0x66 => some 0x0C
  | 0x6E => some 0x0A
  | 0x72 => some 0x0D
  | 0x74 => some 0x09
  | _ => none

/-- Reads string bytes after the opening quote, up to and past the closing quote, decoding
escapes into `acc`. -/
def stringBytes (n : Nat) (acc : Array UInt8) : List UInt8 → Except Fault (Array UInt8 × List UInt8)
  | [] => .error (.eofWhileParsingString, n)
  | 0x22 :: rest => .ok (acc, rest)
  | 0x5C :: [] => .error (.eofWhileParsingString, n)
  | 0x5C :: 0x75 :: h1 :: h2 :: h3 :: h4 :: rest =>
    match hex4 h1 h2 h3 h4 with
    | none => .error (.invalidEscape, n - rest.length)
    | some v =>
      if 0xDC00 ≤ v ∧ v ≤ 0xDFFF then .error (.loneLeadingSurrogateInHexEscape, n - rest.length)
      else if v < 0xD800 ∨ 0xDBFF < v then stringBytes n (acc ++ scalarBytes v) rest
      else
        -- a leading surrogate: a trailing one must follow at once
        match rest with
        | [] => .error (.eofWhileParsingString, n)
        | 0x5C :: [] => .error (.eofWhileParsingString, n)
        | 0x5C :: 0x75 :: g1 :: g2 :: g3 :: g4 :: rest2 =>
          match hex4 g1 g2 g3 g4 with
          | none => .error (.invalidEscape, n - rest2.length)
          | some w =>
            if 0xDC00 ≤ w ∧ w ≤ 0xDFFF then
              stringBytes n (acc ++ scalarBytes (0x10000 + (v - 0xD800) * 1024 + (w - 0xDC00))) rest2
            else .error (.loneLeadingSurrogateInHexEscape, n - rest2.length)
        | 0x5C :: 0x75 :: _ => .error (.eofWhileParsingString, n)
        | 0x5C :: _ :: rest2 => .error (.unexpectedEndOfHexEscape, n - rest2.length)
        | _ :: rest2 => .error (.unexpectedEndOfHexEscape, n - rest2.length)
  | 0x5C :: 0x75 :: _ => .error (.eofWhileParsingString, n)
  | 0x5C :: b :: rest =>
    match simpleEscape b with
    | some e => stringBytes n (acc.push e) rest
    | none => .error (.invalidEscape, n - rest.length)
  | b :: rest =>
    if b < 0x20 then .error (.controlCharacterWhileParsingString, n - rest.length)
    else stringBytes n (acc.push b) rest

/-- Reads a string after its opening quote; its bytes must be well-formed UTF-8. -/
def readString (n : Nat) (s : List UInt8) : Except Fault (String × List UInt8) := do
  let (bytes, rest) ← stringBytes n #[] s
  match Text.stringOfUtf8? bytes.toList with
  | some str => return (str, rest)
  | none => throw (.invalidUnicodeCodePoint, n - rest.length)

end MinuteWindow.Json
