/-! UTF-8, as RFC 3629 §4 lays it out.

`decode` reads a byte sequence into characters and refuses it unless it is a sequence of
well-formed characters: no overlong forms, no surrogates, nothing above U+10FFFF. `encode`
writes a character's bytes. -/
namespace MinuteWindow.Text

/-- A continuation byte, `%x80-BF`. -/
def isTail (b : UInt8) : Bool := 0x80 ≤ b && b ≤ 0xBF

/-- The low six bits of a continuation byte. -/
def tailBits (b : UInt8) : Nat := (b &&& 0x3F).toNat

/-- The character of a code point known to be a scalar value. -/
def scalar (n : Nat) : Char := Char.ofNat n

/-- Reads well-formed UTF-8 into characters. -/
def decodeUtf8 : List UInt8 → Option (List Char)
  | [] => some []
  | a :: rest =>
    if a ≤ 0x7F then (decodeUtf8 rest).map (scalar a.toNat :: ·)
    else match rest with
      | b :: rest2 =>
        if 0xC2 ≤ a && a ≤ 0xDF then
          if isTail b then (decodeUtf8 rest2).map (scalar ((a &&& 0x1F).toNat * 64 + tailBits b) :: ·)
          else none
        else match rest2 with
          | c :: rest3 =>
            let three := (a &&& 0x0F).toNat * 4096 + tailBits b * 64 + tailBits c
            let lowB : UInt8 := if a == 0xE0 then 0xA0 else 0x80
            let highB : UInt8 := if a == 0xED then 0x9F else 0xBF
            if 0xE0 ≤ a && a ≤ 0xEF then
              if lowB ≤ b && b ≤ highB && isTail c then (decodeUtf8 rest3).map (scalar three :: ·)
              else none
            else match rest3 with
              | d :: rest4 =>
                let lowB4 : UInt8 := if a == 0xF0 then 0x90 else 0x80
                let highB4 : UInt8 := if a == 0xF4 then 0x8F else 0xBF
                if 0xF0 ≤ a && a ≤ 0xF4 && lowB4 ≤ b && b ≤ highB4 && isTail c && isTail d then
                  let four := (a &&& 0x07).toNat * 262144 + tailBits b * 4096 + tailBits c * 64 +
                    tailBits d
                  (decodeUtf8 rest4).map (scalar four :: ·)
                else none
              | [] => none
          | [] => none
      | [] => none

/-- The UTF-8 bytes of a character. -/
def encodeChar (c : Char) : List UInt8 := (String.singleton c).toUTF8.toList

/-- The UTF-8 bytes of a string. -/
def utf8Bytes (s : String) : List UInt8 := s.toUTF8.toList

/-- The string of well-formed UTF-8 bytes. -/
def stringOfUtf8? (bs : List UInt8) : Option String := (decodeUtf8 bs).map String.ofList

end MinuteWindow.Text
