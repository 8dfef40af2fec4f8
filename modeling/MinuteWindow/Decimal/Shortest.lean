import MinuteWindow.Json.Value
import MinuteWindow.Text.Digits
/-! Shortest decimal digits of a binary64 number.

A finite positive binary64 value `v = m · 2^q` stands for every real that rounds to it: the
interval from halfway to its predecessor to halfway to its successor, ends included when `m`
is even (reading rounds ties to even). `shortest` finds the fewest significant digits whose
decimal lies in that interval: for `n = 1, 2, …, 17` it takes the grid of `n`-digit decimals at
`v`'s magnitude and tests the two grid points around `v`, and the first grid with a hit wins.
Of two hits the nearer wins, and an exact tie goes to the even one.

Everything is exact: a quantity `a · 2^i · 10^j` is compared with another by scaling both to
natural numbers (`compareScaled`).

`Notation` fixes how the digits are laid out: which decimal exponents are written positionally,
the `.0` of an integral value, and the sign of a positive exponent. -/
namespace MinuteWindow.Decimal
open Json

/-- Compares `a · 2^a2 · 10^a10` with `b · 2^b2 · 10^b10`. -/
def compareScaled (a : Nat) (a2 a10 : Int) (b : Nat) (b2 b10 : Int) : Ordering :=
  let m2 := min a2 b2
  let m10 := min a10 b10
  compare (a * Nat.pow 2 (a2 - m2).toNat * Nat.pow 10 (a10 - m10).toNat)
    (b * Nat.pow 2 (b2 - m2).toNat * Nat.pow 10 (b10 - m10).toNat)

/-- Significand and binary exponent of a finite binary64 magnitude: `m · 2^q`. -/
def significand (x : Binary64) : Nat × Int :=
  if x.exponentField = 0 then (x.fractionField, -1074)
  else (x.fractionField + Nat.pow 2 52, (x.exponentField : Int) - 1075)

/-- Decimal digits `d` and exponent `e` of a value `d · 10^e`. -/
structure Digits where
  digits : Nat
  exponent : Int
  deriving DecidableEq, Repr

/-- Moves trailing zeros of the digits into the exponent. -/
def Digits.normalize (d : Digits) (fuel : Nat) : Digits :=
  match fuel with
  | 0 => d
  | fuel + 1 =>
    if d.digits ≠ 0 ∧ d.digits % 10 = 0 then
      Digits.normalize ⟨d.digits / 10, d.exponent + 1⟩ fuel
    else d

/-- The decimal exponent `E` with `10^E ≤ m · 2^q < 10^(E+1)`, from an estimate corrected by
exact comparisons. -/
def decimalExponent (m : Nat) (q : Int) : Int :=
  let guess : Int := ((q + Nat.log2 m) * 30103) / 100000
  let up := fun (e : Int) => compareScaled 1 0 (e + 1) m q 0 != .gt
  let down := fun (e : Int) => compareScaled m q 0 1 0 e == .lt
  let e1 := if up guess then (if up (guess + 1) then guess + 2 else guess + 1) else guess
  if down e1 then (if down (e1 - 1) then e1 - 2 else e1 - 1) else e1

/-- `⌊m · 2^q / 10^g⌋`. -/
def floorOnGrid (m : Nat) (q g : Int) : Nat :=
  (m * Nat.pow 2 q.toNat * Nat.pow 10 (-g).toNat) / (Nat.pow 2 (-q).toNat * Nat.pow 10 g.toNat)

/-- Whether `c · 10^g` lies within the rounding interval `(lo, hi) · 2^(q-2)`, ends included
when `closed`. -/
def inInterval (c : Nat) (g : Int) (lo hi : Nat) (q : Int) (closed : Bool) : Bool :=
  let aboveLo := compareScaled c 0 g lo (q - 2) 0
  let belowHi := compareScaled c 0 g hi (q - 2) 0
  (aboveLo == .gt || (closed && aboveLo == .eq)) && (belowHi == .lt || (closed && belowHi == .eq))

/-- Searches the grids of `n, n+1, …` digits for one holding a point of the interval. -/
def searchGrids (m : Nat) (q e : Int) (lo hi : Nat) (closed : Bool) (n : Nat) (fuel : Nat) :
    Digits :=
  match fuel with
  | 0 => ⟨m, 0⟩
  | fuel + 1 =>
    let g := e - n + 1
    let low := floorOnGrid m q g
    let lowIn := inInterval low g lo hi q closed
    let highIn := inInterval (low + 1) g lo hi q closed
    if lowIn && highIn then
      -- the nearer of the two; a tie goes to the even one
      match compareScaled (2 * m) q 0 (2 * low + 1) 0 g with
      | .lt => ⟨low, g⟩
      | .gt => ⟨low + 1, g⟩
      | .eq => if low % 2 = 0 then ⟨low, g⟩ else ⟨low + 1, g⟩
    else if lowIn then ⟨low, g⟩
    else if highIn then ⟨low + 1, g⟩
    else searchGrids m q e lo hi closed (n + 1) fuel

/-- The shortest digits of a finite nonzero magnitude, nearest of the shortest. -/
def shortest (x : Binary64) : Digits :=
  let (m, q) := significand x
  let boundary := x.fractionField = 0 ∧ 1 < x.exponentField
  let lo := 4 * m - (if boundary then 1 else 2)
  let hi := 4 * m + 2
  let e := decimalExponent m q
  (searchGrids m q e lo hi (m % 2 == 0) 1 17).normalize 20

/-- How digits are laid out as text. -/
structure Notation where
  /-- Smallest decimal exponent written positionally, if any bound. -/
  positionalFrom : Option Int
  /-- Decimal exponents from this one up are written with an exponent, if any bound. -/
  positionalBelow : Option Int
  /-- Written after an integral value in positional form. -/
  integralSuffix : String
  /-- Written before a positive exponent. -/
  plusSign : String

/-- The digits `ds` with a point after the first `k`, padding with zeros. -/
def placePoint (ds : List Char) (k : Int) (suffix : String) : String :=
  if k ≤ 0 then "0." ++ String.ofList (List.replicate (-k).toNat '0' ++ ds)
  else if ds.length ≤ k.toNat then
    String.ofList (ds ++ List.replicate (k.toNat - ds.length) '0') ++ suffix
  else String.ofList (ds.take k.toNat) ++ "." ++ String.ofList (ds.drop k.toNat)

/-- Lays out digits `d · 10^e` by a notation. -/
def Notation.render (nt : Notation) (d : Digits) : String :=
  let ds := Nat.toDigits 10 d.digits
  -- the decimal exponent of the first digit
  let k : Int := d.exponent + ds.length - 1
  let positional := (nt.positionalFrom.all fun lo => lo ≤ k) && (nt.positionalBelow.all fun hi => k < hi)
  if positional then placePoint ds (k + 1) nt.integralSuffix
  else
    let mantissa := match ds with
      | [c] => String.singleton c
      | c :: rest => String.singleton c ++ "." ++ String.ofList rest
      | [] => "0"
    mantissa ++ "e" ++ (if k < 0 then "-" else nt.plusSign) ++ Text.decimal k.natAbs

/-- The text of a finite binary64 number in a notation: its sign, then its shortest digits. -/
def Notation.renderBinary64 (nt : Notation) (x : Binary64) : String :=
  let sign := if x.negative then "-" else ""
  if x.isZero then sign ++ "0" ++ nt.integralSuffix
  else sign ++ nt.render (shortest x)

end MinuteWindow.Decimal
