import MinuteWindow.Decimal.Shortest
/-! The binary64 value nearest to a decimal.

A decimal `d · 10^e` is the fraction `num / den` of natural numbers. `nearest` finds its binary
order of magnitude `k` (`2^k ≤ num / den < 2^(k+1)`), divides by `2^(k-52)` (or by `2^-1074`
below the normal range) and rounds the quotient to even on a tie. A quotient that rounds up
to `2^53` carries into the exponent, which the encoding `(k + 1023) · 2^52 + q - 2^52` does by
itself, and an exponent past the largest finite one gives infinity. Decimals far outside the
range are decided from their number of digits, so no power of ten beyond `10^800` is built.

`Binary64.displayText` writes a binary64 number the way a float is shown in error messages:
its shortest digits, always positionally, with `.0` on integral values, and `inf`, `-inf` or
`NaN` otherwise. -/
namespace MinuteWindow.Decimal
open Json

/-- The bits of positive infinity. -/
def infinityBits : UInt64 := 0x7FF0000000000000

/-- Whether `num / den ≥ 2^k`. -/
def atLeastPow2 (num den : Nat) (k : Int) : Bool :=
  if 0 ≤ k then num ≥ den * Nat.pow 2 k.toNat else num * Nat.pow 2 k.natAbs ≥ den

/-- `⌊log2 (num / den)⌋` for positive `num` and `den`. -/
def floorLog2 (num den : Nat) : Int :=
  let t : Int := (Nat.log2 num : Int) - Nat.log2 den
  if atLeastPow2 num den t then t else t - 1

/-- `num / den` divided by `2^e`, rounded to nearest, ties to even. -/
def roundScaled (num den : Nat) (e : Int) : Nat :=
  let (n, d) := if 0 ≤ e then (num, den * Nat.pow 2 e.toNat) else (num * Nat.pow 2 e.natAbs, den)
  let q := n / d
  let r := n % d
  if 2 * r > d || (2 * r == d && q % 2 == 1) then q + 1 else q

/-- The bits of the positive binary64 nearest to `num / den`, for positive `num` and `den`. -/
def nearestFraction (num den : Nat) : UInt64 :=
  let k := floorLog2 num den
  if 1024 ≤ k then infinityBits
  else if k < -1022 then (roundScaled num den (-1074)).toUInt64
  else
    let q := roundScaled num den (k - 52)
    let bits := ((k + 1023).toNat * Nat.pow 2 52 + q) - Nat.pow 2 52
    if bits ≥ infinityBits.toNat then infinityBits else bits.toUInt64

/-- The binary64 nearest to `±digits · 10^exp10`. -/
def nearest (negative : Bool) (digits : Nat) (exp10 : Int) : Binary64 :=
  let sign : UInt64 := if negative then 0x8000000000000000 else 0
  let width : Int := (Nat.toDigits 10 digits).length
  let magnitude : UInt64 :=
    if digits = 0 then 0
    else if 310 < exp10 + width then infinityBits
    else if exp10 + width < -330 then 0
    else if 0 ≤ exp10 then nearestFraction (digits * Nat.pow 10 exp10.toNat) 1
    else nearestFraction digits (Nat.pow 10 exp10.natAbs)
  ⟨sign ||| magnitude⟩

/-- Whether a binary64 is infinite. -/
def isInfinite (x : Binary64) : Bool := x.exponentField == 2047 && x.fractionField == 0

/-- Whether a binary64 is not a number. -/
def isNaN (x : Binary64) : Bool := x.exponentField == 2047 && x.fractionField != 0

/-- Shortest digits, always positional, `.0` after an integral value. -/
def displayNotation : Notation :=
  { positionalFrom := none, positionalBelow := none, integralSuffix := ".0", plusSign := "" }

/-- A binary64 as error messages show a float. -/
def displayText (x : Binary64) : String :=
  if isNaN x then "NaN"
  else if isInfinite x then (if x.negative then "-inf" else "inf")
  else displayNotation.renderBinary64 x

end MinuteWindow.Decimal
