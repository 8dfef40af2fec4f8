/-! Decimal digits.

`decimal n` is the decimal text of a natural number, most significant digit first, and
`zeroPad w n` pads it on the left with zeros to at least `w` characters.

`length_zeroPad`: padding never shortens, and reaches the width asked for. -/
namespace MinuteWindow.Text

/-- The decimal digits of `n`. -/
def decimal (n : Nat) : String := String.ofList (Nat.toDigits 10 n)

/-- The decimal digits of `n`, with leading zeros up to `width` characters. -/
def zeroPad (width n : Nat) : String :=
  let ds := Nat.toDigits 10 n
  String.ofList (List.replicate (width - ds.length) '0' ++ ds)

/-- The decimal text of an integer, with a leading minus sign when negative. -/
def decimalInt (i : Int) : String :=
  if i < 0 then "-" ++ decimal i.natAbs else decimal i.natAbs

theorem length_zeroPad (width n : Nat) :
    width ≤ (zeroPad width n).length ∧ (decimal n).length ≤ (zeroPad width n).length := by
  simp only [zeroPad, decimal, String.length_ofList, List.length_append, List.length_replicate]
  omega

end MinuteWindow.Text
