import Mathlib
import MinuteWindow.Text.Utf8

/-! UTF-8 decoding inverts encoding.

`decodeUtf8` takes a lead byte and as many continuation bytes as it announces, and refuses
overlong forms, surrogates and code points above U+10FFFF. One lemma per sequence length says
what it makes of a well-formed sequence. The bytes written for a character always form such a
sequence, with the character's code point in their payload bits, so decoding the bytes of a
string gives the string back (`stringOfUtf8_utf8Bytes`). -/

namespace MinuteWindow.Text

/-! ### Bytes as numbers -/

theorem toNat_and_mask (a : UInt8) {m : UInt8} {k : Nat} (hm : m.toNat = 2 ^ k - 1) :
    (a &&& m).toNat = a.toNat % 2 ^ k := by
  rw [UInt8.toNat_and, hm, Nat.and_two_pow_sub_one_eq_mod]

theorem beq_eq_decide_toNat (a b : UInt8) : (a == b) = decide (a.toNat = b.toNat) := by
  rw [Bool.eq_iff_iff, beq_iff_eq, decide_eq_true_iff, UInt8.toNat_inj]

theorem isTail_iff (b : UInt8) : isTail b = true ↔ 0x80 ≤ b.toNat ∧ b.toNat ≤ 0xBF := by
  simp [isTail, UInt8.le_iff_toNat_le]

theorem tailBits_eq (b : UInt8) : tailBits b = b.toNat % 64 :=
  toNat_and_mask b (k := 6) rfl

/-! ### One character per well-formed sequence -/

theorem decodeUtf8_one {a : UInt8} (rest : List UInt8) (ha : a.toNat ≤ 0x7F) :
    decodeUtf8 (a :: rest) = (decodeUtf8 rest).map (scalar a.toNat :: ·) := by
  rw [decodeUtf8.eq_def]
  dsimp only
  rw [if_pos (UInt8.le_iff_toNat_le.2 ha)]

theorem decodeUtf8_two {a b : UInt8} (rest : List UInt8) (ha : 0xC2 ≤ a.toNat ∧ a.toNat ≤ 0xDF)
    (hb : isTail b = true) :
    decodeUtf8 (a :: b :: rest) =
      (decodeUtf8 rest).map (scalar (a.toNat % 32 * 64 + b.toNat % 64) :: ·) := by
  have hone : ¬ a ≤ 0x7F := by rw [UInt8.le_iff_toNat_le]; simp; omega
  have hlead : (0xC2 ≤ a && a ≤ 0xDF) = true := by simp [UInt8.le_iff_toNat_le]; omega
  rw [decodeUtf8.eq_def]
  dsimp only
  rw [if_neg hone, if_pos hlead, if_pos hb, toNat_and_mask a (k := 5) rfl, tailBits_eq]
  rfl

/-- A three-byte sequence: after `E0` the second byte is at least `A0` (no overlong form), after
`ED` at most `9F` (no surrogate). -/
theorem decodeUtf8_three {a b c : UInt8} (rest : List UInt8) (ha : 0xE0 ≤ a.toNat ∧ a.toNat ≤ 0xEF)
    (hb : isTail b = true) (hlow : a.toNat = 0xE0 → 0xA0 ≤ b.toNat)
    (hhigh : a.toNat = 0xED → b.toNat ≤ 0x9F) (hc : isTail c = true) :
    decodeUtf8 (a :: b :: c :: rest) = (decodeUtf8 rest).map
      (scalar (a.toNat % 16 * 4096 + b.toNat % 64 * 64 + c.toNat % 64) :: ·) := by
  rw [isTail_iff] at hb
  have hone : ¬ a ≤ 0x7F := by rw [UInt8.le_iff_toNat_le]; simp; omega
  have htwo : ¬ (0xC2 ≤ a && a ≤ 0xDF) = true := by simp [UInt8.le_iff_toNat_le]; omega
  have hlead : (0xE0 ≤ a && a ≤ 0xEF) = true := by simp [UInt8.le_iff_toNat_le]; omega
  have hrange : ((if a == 0xE0 then (0xA0 : UInt8) else 0x80) ≤ b &&
      b ≤ (if a == 0xED then (0x9F : UInt8) else 0xBF) && isTail c) = true := by
    rw [beq_eq_decide_toNat, beq_eq_decide_toNat, hc]
    by_cases h0 : a.toNat = 0xE0 <;> by_cases h1 : a.toNat = 0xED <;>
      simp [h0, h1, UInt8.le_iff_toNat_le] <;> omega
  rw [decodeUtf8.eq_def]
  dsimp only
  rw [if_neg hone, if_neg htwo, if_pos hlead, if_pos hrange, toNat_and_mask a (k := 4) rfl,
    tailBits_eq, tailBits_eq]
  rfl

/-- A four-byte sequence: after `F0` the second byte is at least `90` (no overlong form), after
`F4` at most `8F` (nothing above U+10FFFF). -/
theorem decodeUtf8_four {a b c d : UInt8} (rest : List UInt8) (ha : 0xF0 ≤ a.toNat ∧ a.toNat ≤ 0xF4)
    (hb : isTail b = true) (hlow : a.toNat = 0xF0 → 0x90 ≤ b.toNat)
    (hhigh : a.toNat = 0xF4 → b.toNat ≤ 0x8F) (hc : isTail c = true) (hd : isTail d = true) :
    decodeUtf8 (a :: b :: c :: d :: rest) = (decodeUtf8 rest).map
      (scalar (a.toNat % 8 * 262144 + b.toNat % 64 * 4096 + c.toNat % 64 * 64 + d.toNat % 64) :: ·) := by
  rw [isTail_iff] at hb
  have hone : ¬ a ≤ 0x7F := by rw [UInt8.le_iff_toNat_le]; simp; omega
  have htwo : ¬ (0xC2 ≤ a && a ≤ 0xDF) = true := by simp [UInt8.le_iff_toNat_le]; omega
  have hthree : ¬ (0xE0 ≤ a && a ≤ 0xEF) = true := by simp [UInt8.le_iff_toNat_le]; omega
  have hlead : (0xF0 ≤ a && a ≤ 0xF4 && (if a == 0xF0 then (0x90 : UInt8) else 0x80) ≤ b &&
      b ≤ (if a == 0xF4 then (0x8F : UInt8) else 0xBF) && isTail c && isTail d) = true := by
    rw [beq_eq_decide_toNat, beq_eq_decide_toNat, hc, hd]
    by_cases h0 : a.toNat = 0xF0 <;> by_cases h1 : a.toNat = 0xF4 <;>
      simp [h0, h1, UInt8.le_iff_toNat_le] <;> omega
  rw [decodeUtf8.eq_def]
  dsimp only
  rw [if_neg hone, if_neg htwo, if_neg hthree, if_pos hlead, toNat_and_mask a (k := 3) rfl,
    tailBits_eq, tailBits_eq, tailBits_eq]
  rfl

/-! ### Encoded characters decode -/

theorem map_scalar_cons {n : Nat} {c : Char} (o : Option (List Char)) (h : n = c.toNat) :
    o.map (scalar n :: ·) = o.map (c :: ·) := by
  rw [h, scalar, Char.ofNat_toNat]

/-- The bytes written for a character decode to that character, whatever follows them. -/
theorem decodeUtf8_utf8EncodeChar (c : Char) (rest : List UInt8) :
    decodeUtf8 (String.utf8EncodeChar c ++ rest) = (decodeUtf8 rest).map (c :: ·) := by
  -- a character is a scalar value: below the surrogates, or above them and below U+110000
  have hvalid : c.toNat < 0xD800 ∨ (0xDFFF < c.toNat ∧ c.toNat < 0x110000) := c.valid
  have hbyte : ∀ {n}, n < 256 → (UInt8.ofNat n).toNat = n := fun h => UInt8.toNat_ofNat_of_lt' h
  have htail : ∀ {n}, n < 64 → isTail (UInt8.ofNat (n + 128)) = true := fun h => by
    rw [isTail_iff, hbyte (by omega)]
    omega
  unfold String.utf8EncodeChar
  dsimp only
  rw [show c.val.toNat = c.toNat from rfl]
  split_ifs with h1 h2 h3
  · rw [List.singleton_append, decodeUtf8_one rest (by rw [hbyte (by omega)]; omega)]
    exact map_scalar_cons _ (hbyte (by omega))
  · rw [List.cons_append, List.singleton_append,
      decodeUtf8_two rest (by rw [hbyte (by omega)]; omega) (htail (by omega))]
    exact map_scalar_cons _ (by rw [hbyte (by omega), hbyte (by omega)]; omega)
  · rw [List.cons_append, List.cons_append, List.singleton_append,
      decodeUtf8_three rest (by rw [hbyte (by omega)]; omega) (htail (by omega))
        (by rw [hbyte (by omega), hbyte (by omega)]; omega)
        (by rw [hbyte (by omega), hbyte (by omega)]; omega) (htail (by omega))]
    exact map_scalar_cons _ (by rw [hbyte (by omega), hbyte (by omega), hbyte (by omega)]; omega)
  · rw [List.cons_append, List.cons_append, List.cons_append, List.singleton_append,
      decodeUtf8_four rest (by rw [hbyte (by omega)]; omega) (htail (by omega))
        (by rw [hbyte (by omega), hbyte (by omega)]; omega)
        (by rw [hbyte (by omega), hbyte (by omega)]; omega) (htail (by omega)) (htail (by omega))]
    exact map_scalar_cons _ (by
      rw [hbyte (by omega), hbyte (by omega), hbyte (by omega), hbyte (by omega)]
      omega)

theorem decodeUtf8_flatMap (cs : List Char) :
    decodeUtf8 (cs.flatMap String.utf8EncodeChar) = some cs := by
  induction cs with
  | nil => rw [List.flatMap_nil, decodeUtf8.eq_1]
  | cons c cs ih => rw [List.flatMap_cons, decodeUtf8_utf8EncodeChar, ih, Option.map_some]

/-! ### The bytes of a string -/

theorem bytes_toList_loop (bs : ByteArray) (i : Nat) (r : List UInt8) :
    ByteArray.toList.loop bs i r = r.reverse ++ bs.data.toList.drop i := by
  have hsize : bs.size = bs.data.toList.length := by
    rw [Array.length_toList]
    rfl
  induction i, r using ByteArray.toList.loop.induct bs with
  | case1 i r hi ih =>
    rw [ByteArray.toList.loop.eq_1, if_pos hi, ih]
    rw [hsize] at hi
    rw [List.drop_eq_getElem_cons hi]
    have hget : bs.get! i = bs.data.toList[i] := by
      show bs.data[i]! = _
      rw [getElem!_pos bs.data i (by simpa using hi)]
      simp
    simp [hget]
  | case2 i r hi =>
    rw [hsize, Nat.not_lt] at hi
    rw [ByteArray.toList.loop.eq_1, if_neg (by rw [hsize]; omega), List.drop_of_length_le hi,
      List.append_nil]

theorem bytes_toList (bs : ByteArray) : bs.toList = bs.data.toList := by
  rw [ByteArray.toList, bytes_toList_loop, List.reverse_nil, List.nil_append, List.drop_zero]

theorem encodeChar_eq (c : Char) : encodeChar c = String.utf8EncodeChar c := by
  rw [encodeChar, String.toUTF8, String.toByteArray_singleton, List.utf8Encode_singleton,
    bytes_toList, List.toList_data_toByteArray]

theorem utf8Bytes_eq (s : String) : utf8Bytes s = s.toList.flatMap String.utf8EncodeChar := by
  conv_lhs => rw [← String.ofList_toList (s := s)]
  rw [utf8Bytes, String.toUTF8, String.toByteArray_ofList, List.utf8Encode, bytes_toList,
    List.toList_data_toByteArray]

theorem utf8Bytes_append (a b : String) : utf8Bytes (a ++ b) = utf8Bytes a ++ utf8Bytes b := by
  rw [utf8Bytes_eq, utf8Bytes_eq, utf8Bytes_eq, String.toList_append, List.flatMap_append]

/-- Decoding the UTF-8 bytes of a string gives the string back. -/
theorem stringOfUtf8_utf8Bytes (s : String) : stringOfUtf8? (utf8Bytes s) = some s := by
  rw [stringOfUtf8?, utf8Bytes_eq, decodeUtf8_flatMap, Option.map_some, String.ofList_toList]

end MinuteWindow.Text
