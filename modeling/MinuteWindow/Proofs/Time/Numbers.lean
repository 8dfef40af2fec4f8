import Mathlib
import MinuteWindow.Time.Reading
import MinuteWindow.Time.Rfc3339
/-! Reading back the numbers the RFC 3339 writer writes.

The writer pads each field with zeros (`zeroPad`); the reader takes a run of ASCII digits
(`number`) of at least `lo` and at most `hi` characters. A run is read back whole when it
ends where the reader stops taking digits: at its last allowed digit, or before a character
that is not a digit (`Ends`).

`number_digits`: a run of digits is read as its value, and the text after it is left.
`readNumber_twoDigits`, `readNumber_yearText`: each field is read back as the number it was
written from, a year with its sign. `readFraction_zeroPad`: a fraction of `k` digits is
scaled back to nanoseconds. -/
namespace MinuteWindow.Time
open Text

/-! ### Digits -/

theorem isDigit_iff (c : Char) : isDigit c = true ↔ 48 ≤ c.toNat ∧ c.toNat ≤ 57 := by
  simp only [isDigit, Bool.and_eq_true, decide_eq_true_eq, Char.le_def, Char.toNat]
  rfl

theorem isDigit_of_char_isDigit {c : Char} (h : c.isDigit) : isDigit c = true :=
  (isDigit_iff c).2 (Char.isDigit_iff_toNat.1 h)

theorem utf8Size_of_isDigit {c : Char} (h : isDigit c = true) : c.utf8Size = 1 := by
  rw [Char.utf8Size_eq_one_iff, UInt32.le_iff_toNat_le]
  have := (isDigit_iff c).1 h
  simp only [Char.toNat] at this
  simp only [UInt32.reduceToNat]
  omega

theorem byteLength_of_digits {cs : List Char} (h : ∀ c ∈ cs, isDigit c = true) :
    byteLength cs = cs.length := by
  induction cs with
  | nil => rfl
  | cons c cs ih =>
    simp only [List.mem_cons, forall_eq_or_imp] at h
    simp only [byteLength, List.foldr_cons, List.length_cons] at ih ⊢
    rw [utf8Size_of_isDigit h.1, ih h.2]
    omega

theorem digitsValue_eq (ds : List Char) : digitsValue ds = Nat.ofDigitChars 10 ds 0 := by
  unfold digitsValue Nat.ofDigitChars
  congr
  funext n c
  rw [Nat.mul_comm]

theorem zeroPad_toList (w n : Nat) :
    (zeroPad w n).toList =
      List.replicate (w - (Nat.toDigits 10 n).length) '0' ++ Nat.toDigits 10 n := by
  simp [zeroPad]

theorem zeroPad_digits (w n : Nat) : ∀ c ∈ (zeroPad w n).toList, isDigit c = true := by
  intro c hc
  rw [zeroPad_toList, List.mem_append] at hc
  rcases hc with hc | hc
  · rw [List.eq_of_mem_replicate hc]; rfl
  · exact isDigit_of_char_isDigit (Nat.isDigit_of_mem_toDigits (by decide) (by decide) hc)

theorem digitsValue_zeroPad (w n : Nat) : digitsValue (zeroPad w n).toList = n := by
  rw [digitsValue_eq, zeroPad_toList, Nat.ofDigitChars_append, Nat.ofDigitChars_replicate_zero,
    Nat.mul_zero, Nat.ofDigitChars_ten_toDigits]

theorem length_zeroPad_of_lt {w n : Nat} (hw : 0 < w) (hn : n < Nat.pow 10 w) :
    (zeroPad w n).toList.length = w := by
  have : (Nat.toDigits 10 n).length ≤ w := (Nat.length_toDigits_le_iff (by decide) hw).2 hn
  rw [zeroPad_toList, List.length_append, List.length_replicate]
  omega

theorem length_zeroPad_pos (w n : Nat) : 0 < (zeroPad w n).toList.length := by
  rw [zeroPad_toList, List.length_append]
  have := List.length_pos_iff.2 (@Nat.toDigits_ne_nil n 10)
  omega

/-! ### Runs of digits -/

/-- A run of digits ends where the text stops being digits or where the reader stops taking
them. -/
def Ends (hi : Nat) (ds rest : List Char) : Prop :=
  ds.length = hi ∨ ∀ c ∈ rest.head?, isDigit c = false

theorem number_digits {ds rest : List Char} (lo hi : Nat) (hds : ∀ c ∈ ds, isDigit c = true)
    (hlo : lo ≤ ds.length) (hhi : ds.length ≤ hi) (hend : Ends hi ds rest)
    (hv : digitsValue ds ≤ int64Max) :
    number (ds ++ rest) lo hi = .ok (digitsValue ds, rest) := by
  have hshort : shorterThan (ds ++ rest) lo = false := by
    have hd : ∀ c ∈ ds.take lo, isDigit c = true := fun c hc => hds c (List.mem_of_mem_take hc)
    simp only [shorterThan, List.take_append_of_le_length hlo, byteLength_of_digits hd,
      List.length_take, decide_eq_false_iff_not]
    omega
  have htake : ((ds ++ rest).take hi).takeWhile isDigit = ds := by
    rw [List.take_append, List.take_of_length_le hhi, List.takeWhile_append_of_pos hds]
    suffices ((rest.take (hi - ds.length)).takeWhile isDigit) = [] by rw [this, List.append_nil]
    rcases hend with hend | hend
    · rw [hend, Nat.sub_self, List.take_zero, List.takeWhile_nil]
    · cases rest with
      | nil => simp
      | cons c r =>
        have hc : isDigit c = false := hend c rfl
        cases h : hi - ds.length with
        | zero => simp
        | succ k => simp [hc]
  simp only [number, hshort, htake, Bool.false_eq_true, if_false, List.drop_left]
  rw [if_neg (by omega), if_neg (by simp only [int64Max] at hv ⊢; omega)]

theorem isBlank_of_isDigit {c : Char} (h : isDigit c = true) : Text.isBlank c = false := by
  have := (isDigit_iff c).1 h
  unfold Text.isBlank
  simp only [Bool.or_eq_false_iff, Bool.and_eq_false_iff, decide_eq_false_iff_not,
    beq_eq_false_iff_ne]
  omega

theorem trimStart_cons {c : Char} (cs : List Char) (h : Text.isBlank c = false) :
    Text.trimStart (c :: cs) = c :: cs :=
  List.dropWhile_cons_of_neg (by simp [h])

theorem zeroPad_cons (w n : Nat) :
    ∃ c cs, (zeroPad w n).toList = c :: cs ∧ isDigit c = true := by
  match h : (zeroPad w n).toList with
  | [] => exact absurd h (List.ne_nil_of_length_pos (length_zeroPad_pos w n))
  | c :: cs => exact ⟨c, cs, rfl, zeroPad_digits w n c (h ▸ List.mem_cons_self)⟩

/-- A zero-padded number read back, up to `hi` digits, wherever its digits end. -/
theorem number_zeroPad {w n : Nat} (lo hi : Nat) (rest : List Char) (hlo : lo ≤ w) (hw : 0 < w)
    (hn : n < Nat.pow 10 w) (hhi : w ≤ hi) (hend : Ends hi (zeroPad w n).toList rest)
    (hv : n ≤ int64Max) :
    number ((zeroPad w n).toList ++ rest) lo hi = .ok (n, rest) := by
  have hlen := length_zeroPad_of_lt hw hn
  have := number_digits lo hi (zeroPad_digits w n) (by omega) (by omega) hend
    (by rwa [digitsValue_zeroPad])
  rwa [digitsValue_zeroPad] at this

/-- A two-digit field is read back whatever follows it. -/
theorem readNumber_twoDigits {f : Field} (hf : f ≠ .year) {n : Nat} (hn : n < 100)
    (rest : List Char) : readNumber f ((zeroPad 2 n).toList ++ rest) = .ok ((n : Int), rest) := by
  have hnum := number_zeroPad 1 2 rest (by decide) (by decide) hn le_rfl
    (.inl (length_zeroPad_of_lt (by decide) hn)) (by simp only [int64Max]; omega)
  obtain ⟨c, cs, hcs, hc⟩ := zeroPad_cons 2 n
  rw [hcs, List.cons_append] at hnum ⊢
  unfold readNumber
  rw [trimStart_cons _ (isBlank_of_isDigit hc)]
  -- every field but the year takes at most two digits
  cases f
  case year => exact absurd rfl hf
  all_goals simp only [bind, Except.bind, hnum, pure, Except.pure]

theorem head_not_digit {c : Char} (rest : List Char) (h : isDigit c = false) :
    ∀ d ∈ (c :: rest).head?, isDigit d = false := by
  intro d hd
  cases Option.mem_some_iff.1 hd
  exact h

theorem number_signed_zeroPad (n : Nat) (hn : n ≤ int64Max) (rest : List Char)
    (hend : ∀ c ∈ rest.head?, isDigit c = false) :
    number ((zeroPad 4 n).toList ++ rest) 1 ((zeroPad 4 n).toList ++ rest).length =
      .ok (n, rest) := by
  have := number_digits 1 ((zeroPad 4 n).toList ++ rest).length (zeroPad_digits 4 n)
    (length_zeroPad_pos 4 n) (by simp) (.inr hend) (by rwa [digitsValue_zeroPad])
  rwa [digitsValue_zeroPad] at this

/-- A year is read back from its text, signed or not, up to the `-` after it. -/
theorem readNumber_yearText (y : Int) (hy : y.natAbs ≤ int64Max) (rest : List Char) :
    readNumber .year ((yearText y).toList ++ '-' :: rest) = .ok (y, '-' :: rest) := by
  have hdash := head_not_digit rest (by decide : isDigit '-' = false)
  unfold yearText
  split_ifs with h4 hneg
  · -- four digits and no sign
    have hn : y.toNat < Nat.pow 10 4 := by simp only [Nat.pow_eq, Nat.reducePow]; omega
    have hnum := number_zeroPad 1 4 ('-' :: rest) (by decide) (by decide) hn le_rfl
      (.inl (length_zeroPad_of_lt (by decide) hn)) (by simp only [int64Max]; omega)
    obtain ⟨c, cs, hcs, hc⟩ := zeroPad_cons 4 y.toNat
    rw [hcs, List.cons_append] at hnum ⊢
    have hc1 : c ≠ '-' := by rintro rfl; exact absurd hc (by decide)
    have hc2 : c ≠ '+' := by rintro rfl; exact absurd hc (by decide)
    unfold readNumber
    rw [trimStart_cons _ (isBlank_of_isDigit hc)]
    simp [hc1, hc2, hnum, bind, Except.bind, pure, Except.pure]
    omega
  · -- a negative year carries `-`
    have hnum := number_signed_zeroPad y.natAbs hy ('-' :: rest) hdash
    rw [String.toList_append, show "-".toList = ['-'] from rfl, List.append_assoc,
      List.singleton_append]
    unfold readNumber
    rw [trimStart_cons _ (by decide)]
    simp only [bind, Except.bind, pure, Except.pure]
    rw [hnum]
    simp only [Except.ok.injEq, Prod.mk.injEq, and_true]
    omega
  · -- a year past 9999 carries `+`
    have hnum := number_signed_zeroPad y.natAbs hy ('-' :: rest) hdash
    rw [String.toList_append, show "+".toList = ['+'] from rfl, List.append_assoc,
      List.singleton_append]
    unfold readNumber
    rw [trimStart_cons _ (by decide)]
    simp only [bind, Except.bind, pure, Except.pure]
    rw [hnum]
    simp only [Except.ok.injEq, Prod.mk.injEq, and_true]
    omega

theorem dropWhile_digits_of_head {rest : List Char}
    (hend : ∀ c ∈ rest.head?, isDigit c = false) :
    rest.dropWhile isDigit = rest := by
  cases rest with
  | nil => rfl
  | cons c r => exact List.dropWhile_cons_of_neg (by simp [hend c rfl])

/-- `k` fraction digits are read back and scaled to nanoseconds. -/
theorem readFraction_zeroPad {k v : Nat} (hk1 : 1 ≤ k) (hk9 : k ≤ 9) (hv : v < Nat.pow 10 k)
    (rest : List Char) (hend : ∀ c ∈ rest.head?, isDigit c = false) :
    readFraction ((zeroPad k v).toList ++ rest) = .ok (v * Nat.pow 10 (9 - k), rest) := by
  have hlen := length_zeroPad_of_lt hk1 hv
  have h9 : Nat.pow 10 k ≤ Nat.pow 10 9 := Nat.pow_le_pow_right (by decide) hk9
  have hv9 : v ≤ int64Max := by
    have := Nat.lt_of_lt_of_le hv h9
    simp only [int64Max, Nat.pow_eq, Nat.reducePow] at this ⊢
    omega
  have hnum := number_zeroPad 1 9 rest hk1 hk1 hv hk9 (.inr hend) hv9
  unfold readFraction
  simp only [bind, Except.bind, pure, Except.pure]
  rw [hnum]
  simp only [List.length_append, hlen, Nat.add_sub_cancel, dropWhile_digits_of_head hend]

/-- The fraction the writer writes for a nonzero nanosecond count: a point and 3, 6 or 9
digits that scale back to it. -/
theorem fractionText_digits {ns : Nat} (hns : ns < nanosPerSecond) (h0 : ns ≠ 0) :
    ∃ k v : Nat, 1 ≤ k ∧ k ≤ 9 ∧ v < Nat.pow 10 k ∧ v * Nat.pow 10 (9 - k) = ns ∧
      (fractionText ns).toList = '.' :: (zeroPad k v).toList := by
  have hdot : ∀ k v, ("." ++ zeroPad k v).toList = '.' :: (zeroPad k v).toList := fun _ _ => by
    simp
  simp only [nanosPerSecond] at hns
  unfold fractionText
  rw [if_neg h0]
  split_ifs with h6 h3
  · exact ⟨3, ns / 1000000, by decide, by decide, by simp only [Nat.pow_eq]; omega,
      by simp only [Nat.pow_eq]; omega, hdot _ _⟩
  · exact ⟨6, ns / 1000, by decide, by decide, by simp only [Nat.pow_eq]; omega,
      by simp only [Nat.pow_eq]; omega, hdot _ _⟩
  · exact ⟨9, ns, by decide, by decide, by simp only [Nat.pow_eq]; omega,
      by simp only [Nat.pow_eq]; omega, hdot _ _⟩

end MinuteWindow.Time
