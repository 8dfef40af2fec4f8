/-! JSON values.

A number is an integer in the 64-bit range (unsigned above zero, signed below) or a finite
binary64 float, kept as its bit pattern. An object holds one value per key, in ascending order
of the keys; `Value.insertField` adds a field, replacing an earlier value of the same key, so
the last of duplicate keys wins.

`Binary64.isZero` tells a zero of either sign; `Number.isZero` is true of the integer 0 and of
both float zeros. -/
namespace MinuteWindow.Json

/-- A binary64 floating-point number, by its bit pattern. -/
structure Binary64 where
  bits : UInt64
  deriving DecidableEq, Repr

namespace Binary64

/-- The sign bit. -/
def negative (x : Binary64) : Bool := x.bits >>> 63 == 1

/-- The biased exponent field, 0 to 2047. -/
def exponentField (x : Binary64) : Nat := ((x.bits >>> 52) &&& 0x7FF).toNat

/-- The 52-bit fraction field. -/
def fractionField (x : Binary64) : Nat := (x.bits &&& 0xFFFFFFFFFFFFF).toNat

/-- Positive or negative zero. -/
def isZero (x : Binary64) : Bool := x.exponentField == 0 && x.fractionField == 0

/-- The same magnitude with the other sign. -/
def neg (x : Binary64) : Binary64 := ⟨x.bits ^^^ 0x8000000000000000⟩

end Binary64

/-- A JSON number: an integer from `-2^63` to `2^64 - 1`, or a finite float. -/
inductive Number where
  | int (i : Int)
  | float (x : Binary64)
  deriving DecidableEq, Repr

/-- Whether the number equals zero as a float. -/
def Number.isZero : Number → Bool
  | .int i => i == 0
  | .float x => x.isZero

/-- A JSON value. -/
inductive Value where
  | null
  | bool (b : Bool)
  | number (n : Number)
  | string (s : String)
  | array (items : List Value)
  | object (fields : List (String × Value))
  deriving Repr

/-- Adds a field to fields kept in ascending key order, replacing a field of the same key. -/
def insertField (k : String) (v : Value) : List (String × Value) → List (String × Value)
  | [] => [(k, v)]
  | (k', v') :: rest =>
    if k = k' then (k, v) :: rest
    else if k < k' then (k, v) :: (k', v') :: rest
    else (k', v') :: insertField k v rest

/-- The value of a field. -/
def Value.field? (v : Value) (k : String) : Option Value :=
  match v with
  | .object fs => fs.lookup k
  | _ => none

/-- An object from fields given in any order; a later field replaces an earlier one. -/
def Value.ofFields (fs : List (String × Value)) : Value :=
  .object (fs.foldl (fun acc (k, v) => insertField k v acc) [])

/-- The number of a whole natural number. -/
def Value.nat (n : Nat) : Value := .number (.int n)

end MinuteWindow.Json
