import Mathlib
import MinuteWindow.Proofs.Time.RoundTrip
/-! The texts of an instant in the layouts the lenient reader accepts, read back piece by piece.

An instant is written in RFC 3339 on a clock at some offset (`Instant.rfc3339Text`): the date and
time of day that clock shows, a separator, any fraction that gives the nanoseconds exactly
(`FractionOf`), and the offset's mark. It is written in a naive layout as its UTC date and time
(`Instant.naiveText`, `Instant.naiveMinuteText`), with the year signed outside 0 to 9999 and the
fraction in 3, 6 or 9 digits.

Each text spells out fields that resolve to the instant again (`Instant.local_secondFields`,
`Instant.local_minuteFields`). The strict RFC 3339 reader is cut after the minutes
(`readRfc3339_eq`): `strictUpToMinute` reads the date, the separator, the hour and the minute, and
`strictAfterMinute` the seconds, the fraction, the offset and the end. It reads every RFC 3339
text whose clock shows a four-digit year (`readRfc3339_rfc3339Text`) and refuses every text
without an offset (`readRfc3339_without_offset`). The naive layouts share their pieces: the
date, a separator, the hour and minute, then the seconds with the fraction. The first layout of
a text's shape reads it, and each layout before it stops at the separator, at the missing
seconds or at the `T` where it expects the hour (`firstNaive_naiveText`,
`firstNaive_naiveMinuteText`). -/
namespace MinuteWindow.Time
open Text

/-! ### Offsets and texts -/

/-- An RFC 3339 offset mark: `Z` or `z`, or a sign with hours and minutes. -/
inductive OffsetMark where
  | zulu (lower : Bool)
  | hoursMinutes (negative : Bool) (hours minutes : Nat)
  deriving DecidableEq, Repr

namespace OffsetMark

/-- Seconds east of UTC. -/
def seconds : OffsetMark → Int
  | .zulu _ => 0
  | .hoursMinutes negative h m =>
    if negative then -(((h * 60 + m) * 60 : Nat) : Int) else (((h * 60 + m) * 60 : Nat) : Int)

/-- Hours below 24 and minutes below 60. -/
def Valid : OffsetMark → Prop
  | .zulu _ => True
  | .hoursMinutes _ h m => h < 24 ∧ m < 60

instance (m : OffsetMark) : Decidable m.Valid := by
  cases m <;> unfold Valid <;> infer_instance

/-- The text of the mark. -/
def text : OffsetMark → List Char
  | .zulu lower => [if lower then 'z' else 'Z']
  | .hoursMinutes negative h m =>
    (if negative then '-' else '+') :: ((zeroPad 2 h).toList ++ ':' :: (zeroPad 2 m).toList)

theorem seconds_emod (m : OffsetMark) : m.seconds % 60 = 0 := by
  cases m with
  | zulu => rfl
  | hoursMinutes negative h m => unfold seconds; split <;> omega

end OffsetMark

/-- The instant a clock set to the offset `mark` shows at `t`: `mark.seconds` later on its face. -/
def Instant.atOffset (t : Instant) (mark : OffsetMark) : Instant :=
  ⟨t.secs + mark.seconds, t.nanos, t.nanos_lt, fun h => by
    have := t.leap_last h
    have := mark.seconds_emod
    omega⟩

namespace Instant

/-- `YYYY-MM-DD`, the year with four digits, or with a sign outside 0 to 9999. -/
def dateText (t : Instant) : List Char :=
  (yearText t.date.year).toList ++ '-' :: ((zeroPad 2 t.date.month).toList ++ '-' ::
    (zeroPad 2 t.date.day).toList)

/-- `HH:MM`. -/
def hourMinuteText (t : Instant) : List Char :=
  (zeroPad 2 (t.secondOfDay / 3600)).toList ++ ':' :: (zeroPad 2 (t.secondOfDay % 3600 / 60)).toList

/-- The second a clock shows: 60 for a leap second. -/
def clockSecond (t : Instant) : Nat := t.secondOfDay % 60 + if nanosPerSecond ≤ t.nanos then 1 else 0

/-- `SS`. -/
def secondText (t : Instant) : List Char := (zeroPad 2 t.clockSecond).toList

/-- The date, the separator `sep`, the time of day to the second, and the text `frac` after it. -/
def clockText (t : Instant) (sep : Char) (frac : List Char) : List Char :=
  t.dateText ++ sep :: (t.hourMinuteText ++ ':' :: (t.secondText ++ frac))

end Instant

/-- Digits after a point; nothing when there are no digits. -/
def fractionPart (ds : List Char) : List Char := if ds = [] then [] else '.' :: ds

/-- The digits `ds` after a point stand for exactly `ns` nanoseconds: `0.ds` seconds. No digits
stand for none. -/
def FractionOf (ds : List Char) (ns : Nat) : Prop :=
  (∀ c ∈ ds, isDigit c = true) ∧ digitsValue ds * Nat.pow 10 9 = ns * Nat.pow 10 ds.length

instance (ds : List Char) (ns : Nat) : Decidable (FractionOf ds ns) :=
  decidable_of_iff (ds.all isDigit = true ∧
      digitsValue ds * Nat.pow 10 9 = ns * Nat.pow 10 ds.length)
    (by rw [List.all_eq_true]; rfl)

namespace Instant

/-- RFC 3339 text of `t` on a clock at offset `mark`, with separator `sep` and fraction digits
`ds`. -/
def rfc3339Text (t : Instant) (mark : OffsetMark) (sep : Char) (ds : List Char) : List Char :=
  (t.atOffset mark).clockText sep (fractionPart ds) ++ mark.text

/-- The UTC date and time of `t` with no offset, `%Y-%m-%d{sep}%H:%M:%S%.f`: the fraction in 3, 6
or 9 digits, none when the instant is on a second. -/
def naiveText (t : Instant) (sep : Char) : List Char :=
  t.clockText sep (fractionText (t.nanos % nanosPerSecond)).toList

/-- The UTC date and time of `t` to the minute, `%Y-%m-%d{sep}%H:%M`. -/
def naiveMinuteText (t : Instant) (sep : Char) : List Char :=
  t.dateText ++ sep :: t.hourMinuteText

end Instant

/-- An optional sign in front of a number. -/
def signText : Option Bool → List Char
  | none => []
  | some true => ['-']
  | some false => ['+']

/-- The integer that a sign and the digits of `k` write. -/
def signedValue (sign : Option Bool) (k : Nat) : Int := if sign = some true then -(k : Int) else k

/-! ### The fields a text spells out -/

namespace Instant

/-- The date, hour and minute of `t`. -/
def minuteFields (t : Instant) : Fields :=
  { year := some t.date.year, month := some t.date.month, day := some t.date.day
    hour := some (t.secondOfDay / 3600), minute := some (t.secondOfDay % 3600 / 60) }

/-- The date and time of `t` to the second, with the nanosecond field `ns`. -/
def secondFields (t : Instant) (ns : Option Nat) : Fields :=
  { t.minuteFields with second := some t.clockSecond, nanosecond := ns }

theorem days_minuteFields (t : Instant) (hy : minYear ≤ t.date.year ∧ t.date.year ≤ maxYear) :
    t.minuteFields.days = .ok (t.secs / 86400) := by
  simp only [Fields.days, minuteFields]
  rw [if_pos ⟨hy.1, hy.2, date_valid t⟩]
  exact congrArg Except.ok (date_toDays t)

/-- The time fields to the second give back the second of the day and the nanoseconds, a leap
second as second 59 with a nanosecond part past one second, whenever the nanosecond field reads
as the nanoseconds past the second. -/
theorem timeOfDay_secondFields (t : Instant) {ns : Option Nat}
    (hns : ns.getD 0 = t.nanos % nanosPerSecond) :
    (t.secondFields ns).timeOfDay = .ok (t.secondOfDay, t.nanos) := by
  have hsod := secondOfDay_lt t
  have hlt := t.nanos_lt
  simp only [Fields.timeOfDay, secondFields, minuteFields, clockSecond, Option.getD_some]
  by_cases hleap : nanosPerSecond ≤ t.nanos
  · -- a leap second is written as second 60 and read as second 59 plus one second
    have h59 := secondOfDay_leap t hleap
    simp only [hleap, ↓reduceIte, show t.secondOfDay % 60 + 1 = 60 by omega]
    cases ns <;>
      simp only [Option.isSome_some, ↓reduceIte, bind, Except.bind, pure, Except.pure] <;>
      simp only [Option.getD_none, Option.getD_some, nanosPerSecond] at hns hleap hlt ⊢ <;>
      exact congrArg Except.ok (Prod.ext (by omega) (by omega))
  · simp only [hleap, ↓reduceIte, Nat.add_zero]
    split
    · omega
    · rw [if_pos (show t.secondOfDay % 60 ≤ 59 by omega)]
      cases ns <;>
        simp only [Option.isSome_some, ↓reduceIte, bind, Except.bind, pure, Except.pure] <;>
        simp only [Option.getD_none, Option.getD_some, nanosPerSecond] at hns hleap hlt ⊢ <;>
        exact congrArg Except.ok (Prod.ext (by omega) (by omega))

/-- A text to the second names the local reading `t`, whatever its offset field. -/
theorem local_secondFields (t : Instant) (hy : minYear ≤ t.date.year ∧ t.date.year ≤ maxYear)
    {ns : Option Nat} (hns : ns.getD 0 = t.nanos % nanosPerSecond) (off : Option Int) :
    ({ t.secondFields ns with offset := off } : Fields).local = .ok (t.secs, t.nanos) := by
  have hdays : ({ t.secondFields ns with offset := off } : Fields).days = .ok (t.secs / 86400) :=
    days_minuteFields t hy
  have htime : ({ t.secondFields ns with offset := off } : Fields).timeOfDay =
      .ok (t.secondOfDay, t.nanos) := timeOfDay_secondFields t hns
  simp only [Fields.local, hdays, htime]
  rw [← secs_eq]

/-- A text to the minute names the local reading `t` when `t` is on a minute. -/
theorem local_minuteFields (t : Instant) (hy : minYear ≤ t.date.year ∧ t.date.year ≤ maxYear)
    (h0 : t.secs % 60 = 0) (hn : t.nanos = 0) : t.minuteFields.local = .ok (t.secs, t.nanos) := by
  have hsod : t.secondOfDay % 60 = 0 := by unfold secondOfDay; omega
  have htime : t.minuteFields.timeOfDay = .ok (t.secondOfDay, 0) := by
    simp only [Fields.timeOfDay, minuteFields, Option.getD_none]
    rw [if_pos (by decide : (0 : Nat) ≤ 59)]
    simp only [bind, Except.bind, pure, Except.pure]
    exact congrArg Except.ok (Prod.ext (by omega) rfl)
  simp only [Fields.local, days_minuteFields t hy, htime, hn]
  rw [← secs_eq]

end Instant

namespace Instant

/-- The date of `t`. -/
def dateFields (t : Instant) : Fields :=
  { year := some t.date.year, month := some t.date.month, day := some t.date.day }

theorem clockSecond_le (t : Instant) : t.clockSecond ≤ 60 := by
  have := secondOfDay_lt t
  unfold clockSecond
  split <;> omega

/-- The date fields of `t` are accepted one after the other, in the order both readers meet
them. -/
theorem set_dateFields (t : Instant) (hfit : yearFits t.date.year = true) :
    ({} : Fields).set .year t.date.year = .ok { year := some t.date.year } ∧
    ({ year := some t.date.year } : Fields).set .month (t.date.month : Int) =
      .ok { year := some t.date.year, month := some t.date.month } ∧
    ({ year := some t.date.year, month := some t.date.month } : Fields).set .day
      (t.date.day : Int) = .ok t.dateFields := by
  obtain ⟨hm1, hm12, hd1, hd⟩ := date_valid t
  have h31 := daysInMonth_le t.date.year t.date.month
  refine ⟨?_, ?_, ?_⟩
  · simp [Fields.set, hfit, setOnce, bind, Except.bind, pure, Except.pure]
  · simp [Fields.set, setOnce, bind, Except.bind, pure, Except.pure]
    omega
  · simp [Fields.set, setOnce, dateFields, bind, Except.bind, pure, Except.pure]
    omega

/-- Then the hour and the minute. -/
theorem set_hourMinute (t : Instant) :
    t.dateFields.set .hour ((t.secondOfDay / 3600 : Nat) : Int) =
      .ok { t.dateFields with hour := some (t.secondOfDay / 3600) } ∧
    ({ t.dateFields with hour := some (t.secondOfDay / 3600) } : Fields).set .minute
      ((t.secondOfDay % 3600 / 60 : Nat) : Int) = .ok t.minuteFields := by
  have hsod := secondOfDay_lt t
  -- the hour and the minute are casts of divisions, which `simp` would push apart
  constructor
  · rw [Fields.set, if_pos (by omega)]
    simp only [dateFields, setOnce, Int.toNat_natCast, bind, Except.bind, pure, Except.pure]
  · rw [Fields.set, if_pos (by omega)]
    simp only [dateFields, minuteFields, setOnce, Int.toNat_natCast, bind, Except.bind, pure,
      Except.pure]

theorem set_second (t : Instant) :
    t.minuteFields.set .second (t.clockSecond : Int) =
      .ok { t.minuteFields with second := some t.clockSecond } := by
  have := clockSecond_le t
  simp [Fields.set, setOnce, minuteFields, bind, Except.bind, pure, Except.pure]
  omega

end Instant

/-! ### Digits of a fraction -/

theorem digitsValue_foldl (ds : List Char) (init : Nat) :
    ds.foldl (fun n c => n * 10 + (c.toNat - '0'.toNat)) init =
      init * Nat.pow 10 ds.length + digitsValue ds := by
  induction ds generalizing init with
  | nil => simp [digitsValue]
  | cons c ds ih =>
    simp only [List.foldl_cons, digitsValue] at ih ⊢
    rw [ih (init * 10 + _), ih (0 * 10 + _), List.length_cons]
    simp only [Nat.pow_eq, Nat.pow_succ]
    ring

theorem digitsValue_append (a b : List Char) :
    digitsValue (a ++ b) = digitsValue a * Nat.pow 10 b.length + digitsValue b := by
  rw [digitsValue, List.foldl_append, digitsValue_foldl]
  rfl

theorem digitsValue_lt {ds : List Char} (h : ∀ c ∈ ds, isDigit c = true) :
    digitsValue ds < Nat.pow 10 ds.length := by
  induction ds with
  | nil => decide
  | cons c ds ih =>
    have hc := (isDigit_iff c).1 (h c List.mem_cons_self)
    have hv := ih fun d hd => h d (List.mem_cons_of_mem _ hd)
    have hd : digitsValue [c] ≤ 9 := by simp [digitsValue]; omega
    rw [show c :: ds = [c] ++ ds from rfl, digitsValue_append]
    calc digitsValue [c] * Nat.pow 10 ds.length + digitsValue ds
        < (digitsValue [c] + 1) * Nat.pow 10 ds.length := by rw [Nat.add_one_mul]; omega
      _ ≤ 10 * Nat.pow 10 ds.length := Nat.mul_le_mul_right _ (by omega)
      _ = Nat.pow 10 ([c] ++ ds).length := by
        simp only [List.length_append, List.length_singleton, Nat.pow_eq]
        ring

/-- The digits of a fraction that gives `ns` exactly are read back as `ns`, however many there
are: past the ninth they are zeros, read and dropped. -/
theorem readFraction_fractionOf {ds : List Char} {ns : Nat} (hds : FractionOf ds ns)
    (hne : ds ≠ []) (rest : List Char) (hend : ∀ c ∈ rest.head?, isDigit c = false) :
    readFraction (ds ++ rest) = .ok (ns, rest) := by
  obtain ⟨hdig, hval⟩ := hds
  have hpos : 0 < ds.length := List.length_pos_iff.2 hne
  have hbig : Nat.pow 10 9 ≤ int64Max := by decide
  by_cases hlen : ds.length ≤ 9
  · -- the reader takes every digit and scales them to nanoseconds
    have hv : digitsValue ds < Nat.pow 10 9 :=
      Nat.lt_of_lt_of_le (digitsValue_lt hdig) (Nat.pow_le_pow_right (by decide) hlen)
    have hnum := number_digits 1 9 hdig hpos hlen (.inr hend) (by omega)
    have hscale : digitsValue ds * Nat.pow 10 (9 - ds.length) = ns := by
      apply Nat.eq_of_mul_eq_mul_right (Nat.pow_pos (by decide : 0 < 10))
      calc digitsValue ds * Nat.pow 10 (9 - ds.length) * Nat.pow 10 ds.length
          = digitsValue ds * Nat.pow 10 9 := by
            simp only [Nat.pow_eq]
            rw [Nat.mul_assoc, ← Nat.pow_add, Nat.sub_add_cancel hlen]
        _ = ns * Nat.pow 10 ds.length := hval
    unfold readFraction
    rw [hnum]
    simp only [bind, Except.bind, pure, Except.pure, List.length_append, Nat.add_sub_cancel,
      dropWhile_digits_of_head hend, hscale]
  · -- the first nine digits are the nanoseconds; the others are zeros
    obtain ⟨a, b, rfl, ha⟩ : ∃ a b, ds = a ++ b ∧ a.length = 9 :=
      ⟨ds.take 9, ds.drop 9, (List.take_append_drop 9 ds).symm, by simp; omega⟩
    have hadig : ∀ c ∈ a, isDigit c = true := fun c hc => hdig c (List.mem_append_left _ hc)
    have hbdig : ∀ c ∈ b, isDigit c = true := fun c hc => hdig c (List.mem_append_right _ hc)
    have hva : digitsValue a < Nat.pow 10 9 := ha ▸ digitsValue_lt hadig
    have hvb := digitsValue_lt hbdig
    have hP : 0 < Nat.pow 10 b.length := Nat.pow_pos (by decide : 0 < 10)
    -- the value of all digits, over `10 ^ 9`, is the nanoseconds scaled by the digits past nine
    have hcancel : digitsValue a * Nat.pow 10 b.length + digitsValue b =
        ns * Nat.pow 10 b.length := by
      apply Nat.eq_of_mul_eq_mul_right (show 0 < Nat.pow 10 9 by decide)
      rw [← digitsValue_append, hval, List.length_append, ha]
      simp only [Nat.pow_eq, Nat.pow_add]
      ring
    have hns : digitsValue a = ns := by
      calc digitsValue a
          = (digitsValue b + digitsValue a * Nat.pow 10 b.length) / Nat.pow 10 b.length := by
            rw [Nat.add_mul_div_right _ _ hP, Nat.div_eq_of_lt hvb, Nat.zero_add]
        _ = ns := by rw [Nat.add_comm, hcancel, Nat.mul_div_cancel _ hP]
    have hnum : number (a ++ (b ++ rest)) 1 9 = .ok (digitsValue a, b ++ rest) :=
      number_digits 1 9 hadig (by omega) (by omega) (.inl ha) (by omega)
    unfold readFraction
    rw [List.append_assoc, hnum]
    simp only [bind, Except.bind, pure, Except.pure, List.length_append, ha, Nat.add_sub_cancel,
      Nat.sub_self, List.dropWhile_append_of_pos hbdig, dropWhile_digits_of_head hend, hns]
    simp

/-- The fraction the writer writes gives its nanoseconds exactly. -/
theorem fractionText_eq_fractionPart {ns : Nat} (hns : ns < nanosPerSecond) :
    ∃ ds, FractionOf ds ns ∧ (fractionText ns).toList = fractionPart ds := by
  by_cases h0 : ns = 0
  · subst h0
    exact ⟨[], ⟨by simp, rfl⟩, rfl⟩
  · obtain ⟨k, v, hk1, hk9, hv, hkv, htext⟩ := fractionText_digits hns h0
    have hlen := length_zeroPad_of_lt (Nat.lt_of_lt_of_le Nat.zero_lt_one hk1) hv
    refine ⟨(zeroPad k v).toList, ⟨zeroPad_digits k v, ?_⟩, ?_⟩
    · rw [digitsValue_zeroPad, hlen, ← hkv]
      simp only [Nat.pow_eq]
      rw [Nat.mul_assoc, ← Nat.pow_add, Nat.sub_add_cancel hk9]
    · rw [htext, fractionPart, if_neg (List.ne_nil_of_length_pos (by omega))]

/-! ### The strict reader, cut after the minutes -/

/-- The strict reader's date, separator, hour and minute. -/
def strictUpToMinute (cs : List Char) : Except ReadError (Fields × List Char) := do
  let (y, s) ← number cs 4 4
  let fs ← ({} : Fields).set .year y
  let s ← expectChar '-' s
  let (fs, s) ← twoDigitField fs .month s
  let s ← expectChar '-' s
  let (fs, s) ← twoDigitField fs .day s
  let s ← dateTimeSeparator s
  let (fs, s) ← twoDigitField fs .hour s
  let s ← expectChar ':' s
  let (fs, s) ← twoDigitField fs .minute s
  return (fs, s)

/-- The strict reader's offset, up to the end of the text. -/
def strictOffset (fs : Fields) (s : List Char) : Except ReadError Instant := do
  let (off, s) ← offset s .exact
  unless -maxOffset ≤ off ∧ off ≤ maxOffset do throw .outOfRange
  let fs ← fs.setOffset off
  unless s.isEmpty do throw .tooLong
  fs.toInstant

/-- The strict reader's second and optional fraction, then its offset. -/
def strictAfterMinute (fs : Fields) (s : List Char) : Except ReadError Instant := do
  let s ← expectChar ':' s
  let (fs, s) ← twoDigitField fs .second s
  let (fs, s) ← match s with
    | '.' :: rest => do
      let (v, rest) ← readFraction rest
      pure (← fs.setNanos v, rest)
    | _ => pure (fs, s)
  strictOffset fs s

theorem readRfc3339_eq (cs : List Char) :
    readRfc3339 cs = (do let (fs, s) ← strictUpToMinute cs; strictAfterMinute fs s) := by
  -- the parts stay folded, so that the two sides meet only by unfolding them
  simp only [readRfc3339, strictUpToMinute, bind_assoc]
  rfl

theorem expectChar_self (c : Char) (cs : List Char) : expectChar c (c :: cs) = .ok cs := by
  simp [expectChar]

theorem dateTimeSeparator_sep {sep : Char} (hsep : sep = 'T' ∨ sep = 't' ∨ sep = ' ')
    (cs : List Char) : dateTimeSeparator (sep :: cs) = .ok cs := by
  rcases hsep with rfl | rfl | rfl <;> rfl

theorem twoDigitField_zeroPad {fs fs' : Fields} {f : Field} {n : Nat} (hn : n < 100)
    (hs : fs.set f n = .ok fs') (rest : List Char) :
    twoDigitField fs f ((zeroPad 2 n).toList ++ rest) = .ok (fs', rest) := by
  have hnum := number_zeroPad 2 2 rest le_rfl (by decide) hn le_rfl
    (.inl (length_zeroPad_of_lt (by decide) hn)) (by simp only [int64Max]; omega)
  simp only [twoDigitField, hnum, hs, bind, Except.bind, pure, Except.pure]

/-- The strict reader takes a date with a four-digit year, a separator, the hour and the minute,
whatever follows. -/
theorem strictUpToMinute_text (t : Instant) (hy : 0 ≤ t.date.year ∧ t.date.year ≤ 9999)
    {sep : Char} (hsep : sep = 'T' ∨ sep = 't' ∨ sep = ' ') (more : List Char) :
    strictUpToMinute (t.dateText ++ sep :: (t.hourMinuteText ++ more)) =
      .ok (t.minuteFields, more) := by
  obtain ⟨hsy, hsm, hsd⟩ :=
    t.set_dateFields (by simp only [yearFits, Bool.and_eq_true, decide_eq_true_eq]; omega)
  obtain ⟨hsh, hsmi⟩ := t.set_hourMinute
  obtain ⟨hm1, hm12, hd1, hd⟩ := Instant.date_valid t
  have h31 := daysInMonth_le t.date.year t.date.month
  have hsod := Instant.secondOfDay_lt t
  have hn : t.date.year.toNat < Nat.pow 10 4 := by simp only [Nat.pow_eq, Nat.reducePow]; omega
  unfold strictUpToMinute Instant.dateText Instant.hourMinuteText
  rw [yearText, if_pos hy]
  simp only [List.append_assoc, List.cons_append]
  rw [number_zeroPad 4 4 _ le_rfl (by decide) hn le_rfl
    (.inl (length_zeroPad_of_lt (by decide) hn)) (by simp only [int64Max]; omega)]
  simp only [bind, Except.bind, Int.toNat_of_nonneg hy.1, hsy, expectChar_self]
  rw [twoDigitField_zeroPad (by omega) hsm]
  simp only [expectChar_self]
  rw [twoDigitField_zeroPad (by omega) hsd]
  simp only [dateTimeSeparator_sep hsep]
  rw [twoDigitField_zeroPad (by omega) hsh]
  simp only [expectChar_self]
  rw [twoDigitField_zeroPad (by omega) hsmi]
  rfl

theorem strictAfterMinute_nil (fs : Fields) : strictAfterMinute fs [] = .error .tooShort := rfl

/-- After the minute the strict reader takes the second and an exact fraction, up to a text that
is no digit or point, and leaves that text to the offset. -/
theorem strictAfterMinute_text (t : Instant) {ds : List Char}
    (hds : FractionOf ds (t.nanos % nanosPerSecond)) (rest : List Char)
    (hend : ∀ c ∈ rest.head?, isDigit c = false ∧ c ≠ '.') :
    strictAfterMinute t.minuteFields (':' :: (t.secondText ++ (fractionPart ds ++ rest))) =
      strictOffset (t.secondFields (if ds = [] then none else some (t.nanos % nanosPerSecond)))
        rest := by
  have h60 := t.clockSecond_le
  unfold strictAfterMinute Instant.secondText
  simp only [expectChar_self, bind, Except.bind]
  rw [twoDigitField_zeroPad (by omega) t.set_second]
  by_cases h0 : ds = []
  · -- no fraction: the second is followed by the offset
    subst h0
    cases rest with
    | nil => rfl
    | cons c r =>
      simp only [fractionPart, if_pos, List.nil_append]
      split
      · rename_i heq
        exact absurd (List.cons.inj heq).1 (hend c rfl).2
      · rfl
  · have hns : t.nanos % nanosPerSecond ≤ 999999999 := by
      have := Nat.mod_lt t.nanos (show 0 < nanosPerSecond by decide)
      simp only [nanosPerSecond] at this ⊢
      omega
    rw [fractionPart, if_neg h0, List.cons_append]
    simp only [readFraction_fractionOf hds h0 rest (fun c hc => (hend c hc).1), Fields.setNanos,
      hns, if_true, if_neg h0, setOnce, Instant.minuteFields, bind, Except.bind, pure, Except.pure]
    rfl

/-! ### Offsets read back -/

theorem strictOffset_nil (fs : Fields) : strictOffset fs [] = .error .tooShort := rfl

/-- Two zero-padded digits, with the value they were written from. -/
theorem zeroPad_two {n : Nat} (hn : n < 100) :
    ∃ a b : Char, (zeroPad 2 n).toList = [a, b] ∧ isDigit a = true ∧ isDigit b = true ∧
      digitsValue [a, b] = n := by
  obtain ⟨a, b, hab⟩ := List.length_eq_two.1 (length_zeroPad_of_lt (by decide) (show n < Nat.pow 10 2 from hn))
  have hdig := zeroPad_digits 2 n
  rw [hab] at hdig
  exact ⟨a, b, hab, hdig a (by simp), hdig b (by simp), hab ▸ digitsValue_zeroPad 2 n⟩

namespace OffsetMark

theorem seconds_bound {mark : OffsetMark} (hv : mark.Valid) :
    -maxOffset ≤ mark.seconds ∧ mark.seconds ≤ maxOffset := by
  cases mark with
  | zulu => simp [seconds, maxOffset]
  | hoursMinutes negative h m =>
    obtain ⟨hh, hm⟩ := hv
    simp only [seconds, maxOffset]
    split <;> omega

/-- A mark starts with a letter or a sign. -/
theorem text_head (mark : OffsetMark) : ∀ c ∈ mark.text.head?, isDigit c = false ∧ c ≠ '.' := by
  have hfirst : ∀ c ∈ mark.text.head?, c = 'z' ∨ c = 'Z' ∨ c = '+' ∨ c = '-' := by
    cases mark with
    | zulu lower => cases lower <;> simp [text]
    | hoursMinutes negative h m => cases negative <;> simp [text]
  intro c hc
  rcases hfirst c hc with rfl | rfl | rfl | rfl <;> decide

end OffsetMark

/-- The exact offset reader reads a valid mark whole, as its seconds. -/
theorem offset_text {mark : OffsetMark} (hv : mark.Valid) :
    offset mark.text .exact = .ok (mark.seconds, []) := by
  cases mark with
  | zulu lower => cases lower <;> rfl
  | hoursMinutes negative h m =>
    obtain ⟨hh, hm⟩ := hv
    obtain ⟨a, b, hab, ha, hb, hvab⟩ := zeroPad_two (show h < 100 by omega)
    obtain ⟨c, d, hcd, hc, hd, hvcd⟩ := zeroPad_two (show m < 100 by omega)
    -- the tens of the minutes are below 6
    have hc6 : ¬ ('6' ≤ c) := by
      have hc' := (isDigit_iff c).1 hc
      have hd' := (isDigit_iff d).1 hd
      have hval : (c.toNat - 48) * 10 + (d.toNat - 48) = m := by simpa [digitsValue] using hvcd
      rw [Char.le_def, UInt32.le_iff_toNat_le]
      show ¬ (54 ≤ c.toNat)
      omega
    have hc' : '0' ≤ c ∧ c ≤ '9' := by simpa [isDigit] using hc
    simp only [OffsetMark.text, hab, hcd, List.cons_append, List.nil_append]
    cases negative <;>
      simp [offset, twoDigits, shorterThan, byteLength, utf8Size_of_isDigit ha,
        utf8Size_of_isDigit hb, utf8Size_of_isDigit hc, utf8Size_of_isDigit hd, ha, hb, hd, hc',
        hc6, hvab, hvcd, OffsetMark.seconds, expectChar, bind, Except.bind, pure, Except.pure]

/-- The strict reader reads a valid mark to the end of the text and resolves the fields at its
offset. -/
theorem strictOffset_text {fs : Fields} (hfs : fs.offset = none) {mark : OffsetMark}
    (hv : mark.Valid) :
    strictOffset fs mark.text =
      ({ fs with offset := some mark.seconds } : Fields).toInstantAt mark.seconds := by
  have hb := mark.seconds_bound hv
  simp only [strictOffset, offset_text hv, hb, and_self, Fields.setOffset, hfs, setOnce,
    Fields.toInstant, List.isEmpty_nil, bind, Except.bind, pure, Except.pure]
  rfl

/-! ### The strict reader on whole texts -/

/-- Fields whose local reading is `t` moved by `off` resolve at `off` to `t`. -/
theorem toInstantAt_of_local {fs : Fields} {t : Instant} (ht : t.InRange) {secs off : Int}
    (hoff : -86400 < off ∧ off < 86400) (hsecs : secs - off = t.secs)
    (h : fs.local = .ok (secs, t.nanos)) : fs.toInstantAt off = .ok t := by
  simp only [Fields.toInstantAt, h, hoff, and_self, if_true, hsecs, Instant.ofParts?_self t ht,
    bind, Except.bind, pure, Except.pure]

/-- No digits stand for no nanoseconds. -/
theorem FractionOf.getD {ds : List Char} {ns : Nat} (h : FractionOf ds ns) :
    (if ds = [] then none else some ns).getD 0 = ns := by
  split
  · rename_i h0
    subst h0
    simpa [digitsValue, eq_comm] using h.2
  · rfl

/-- The strict reader reads an instant's RFC 3339 text at a valid offset back to the instant,
whenever the clock at that offset shows a year of four digits. -/
theorem readRfc3339_rfc3339Text (t : Instant) (ht : t.InRange) {mark : OffsetMark}
    (hv : mark.Valid) {sep : Char} (hsep : sep = 'T' ∨ sep = 't' ∨ sep = ' ') {ds : List Char}
    (hds : FractionOf ds (t.nanos % nanosPerSecond))
    (hy : 0 ≤ (t.atOffset mark).date.year ∧ (t.atOffset mark).date.year ≤ 9999) :
    readRfc3339 (t.rfc3339Text mark sep ds) = .ok t := by
  have hb := mark.seconds_bound hv
  have hlocal := Instant.local_secondFields (t.atOffset mark)
    (by simp only [minYear, maxYear]; omega) hds.getD (some mark.seconds)
  rw [readRfc3339_eq, Instant.rfc3339Text, Instant.clockText]
  simp only [List.append_assoc, List.cons_append]
  rw [strictUpToMinute_text _ hy hsep]
  simp only [bind, Except.bind]
  rw [strictAfterMinute_text (t.atOffset mark) hds _ mark.text_head, strictOffset_text rfl hv]
  exact toInstantAt_of_local ht (by simp only [maxOffset] at hb; omega)
    (by simp only [Instant.atOffset]; omega) hlocal

theorem number_cons_of_not_digit {c : Char} (hc : isDigit c = false) (cs : List Char) {lo : Nat}
    (hlo : 0 < lo) (hi : Nat) : ∃ e, number (c :: cs) lo hi = .error e := by
  unfold number
  split
  · exact ⟨_, rfl⟩
  · have hds : ((c :: cs).take hi).takeWhile isDigit = [] := by
      cases hi with
      | zero => rfl
      | succ k => exact List.takeWhile_cons_of_neg (by simp [hc])
    rw [hds]
    exact ⟨.invalid, by simp [hlo]⟩

/-- A date outside the years 0 to 9999 starts with its sign. -/
theorem Instant.dateText_signed (t : Instant) (hy : ¬(0 ≤ t.date.year ∧ t.date.year ≤ 9999)) :
    ∃ c cs, t.dateText = c :: cs ∧ isDigit c = false := by
  unfold Instant.dateText yearText
  rw [if_neg hy, String.toList_append]
  split
  · exact ⟨'-', _, rfl, by decide⟩
  · exact ⟨'+', _, rfl, by decide⟩

/-- A text without an offset, to the minute or to the second with an exact fraction, is no strict
RFC 3339 text. -/
theorem readRfc3339_without_offset (t : Instant) {sep : Char}
    (hsep : sep = 'T' ∨ sep = 't' ∨ sep = ' ') {tail : List Char}
    (htail : tail = [] ∨ ∃ ds, FractionOf ds (t.nanos % nanosPerSecond) ∧
      tail = ':' :: (t.secondText ++ fractionPart ds)) :
    ∃ e, readRfc3339 (t.dateText ++ sep :: (t.hourMinuteText ++ tail)) = .error e := by
  rw [readRfc3339_eq]
  by_cases hy : 0 ≤ t.date.year ∧ t.date.year ≤ 9999
  · rw [strictUpToMinute_text t hy hsep]
    simp only [bind, Except.bind]
    rcases htail with rfl | ⟨ds, hds, rfl⟩
    · exact ⟨_, strictAfterMinute_nil _⟩
    · -- the text ends where the offset should start
      have hread := strictAfterMinute_text t hds [] (by simp)
      rw [List.append_nil] at hread
      rw [hread, strictOffset_nil]
      exact ⟨_, rfl⟩
  · -- a signed year is refused at its sign
    obtain ⟨c, cs, hcs, hc⟩ := t.dateText_signed hy
    obtain ⟨e, he⟩ := number_cons_of_not_digit hc (cs ++ sep :: (t.hourMinuteText ++ tail))
      (by decide : 0 < 4) 4
    rw [hcs, List.cons_append]
    exact ⟨e, by simp only [strictUpToMinute, he, bind, Except.bind]⟩

/-! ### The naive layouts, piece by piece -/

/-- `%Y-%m-%d` -/
def naiveDate : List Piece :=
  [.number .year, .literal '-', .number .month, .literal '-', .number .day]

/-- `%H:%M` -/
def hourMinutePieces : List Piece := [.number .hour, .literal ':', .number .minute]

/-- `:%S%.f` -/
def secondPieces : List Piece := [.literal ':', .number .second, .fraction]

theorem naiveT_eq :
    naiveT = naiveDate ++ .literal 'T' :: (hourMinutePieces ++ secondPieces) := rfl

theorem naiveSpace_eq : naiveSpace = naiveDate ++ .blank :: (hourMinutePieces ++ secondPieces) :=
  rfl

theorem naiveTMinutes_eq : naiveTMinutes = naiveDate ++ .literal 'T' :: (hourMinutePieces ++ []) :=
  rfl

theorem naiveSpaceMinutes_eq :
    naiveSpaceMinutes = naiveDate ++ .blank :: (hourMinutePieces ++ []) := rfl

/-- The date pieces read the date of a representable instant back, signed year included,
whatever follows. -/
theorem readPieces_naiveDate (t : Instant) (ht : t.InRange) (rest : List Char)
    (ps : List Piece) :
    readPieces {} (t.dateText ++ rest) (naiveDate ++ ps) = readPieces t.dateFields rest ps := by
  have hyear := Instant.date_year_mem t ht
  obtain ⟨hsy, hsm, hsd⟩ := t.set_dateFields
    (by simp only [yearFits, Bool.and_eq_true, decide_eq_true_eq, minYear, maxYear] at hyear ⊢
        omega)
  obtain ⟨hm1, hm12, hd1, hd⟩ := Instant.date_valid t
  have h31 := daysInMonth_le t.date.year t.date.month
  have hy : t.date.year.natAbs ≤ int64Max := by
    simp only [minYear, maxYear, int64Max] at hyear ⊢
    omega
  unfold Instant.dateText naiveDate
  simp only [List.append_assoc, List.cons_append, List.nil_append]
  rw [readPieces_cons_ok _ (Piece.read_number (readNumber_yearText _ hy _) hsy),
    readPieces_cons_ok _ (Piece.read_literal _ _ _),
    readPieces_cons_ok _ (Piece.read_number (readNumber_twoDigits (by decide) (by omega) _) hsm),
    readPieces_cons_ok _ (Piece.read_literal _ _ _),
    readPieces_cons_ok _ (Piece.read_number (readNumber_twoDigits (by decide) (by omega) _) hsd)]

/-- The hour and minute pieces read the hour and the minute back, whatever follows. -/
theorem readPieces_hourMinute (t : Instant) (rest : List Char) (ps : List Piece) :
    readPieces t.dateFields (t.hourMinuteText ++ rest) (hourMinutePieces ++ ps) =
      readPieces t.minuteFields rest ps := by
  obtain ⟨hsh, hsmi⟩ := t.set_hourMinute
  have hsod := Instant.secondOfDay_lt t
  unfold Instant.hourMinuteText hourMinutePieces
  simp only [List.append_assoc, List.cons_append, List.nil_append]
  rw [readPieces_cons_ok _ (Piece.read_number (readNumber_twoDigits (by decide) (by omega) _) hsh),
    readPieces_cons_ok _ (Piece.read_literal _ _ _),
    readPieces_cons_ok _ (Piece.read_number (readNumber_twoDigits (by decide) (by omega) _) hsmi)]

/-- The second pieces read the second and the written fraction back, up to a text that is no
digit or point. -/
theorem readPieces_secondPieces (t : Instant) (rest : List Char)
    (hend : ∀ c ∈ rest.head?, isDigit c = false ∧ c ≠ '.') :
    readPieces t.minuteFields
        (':' :: (t.secondText ++ ((fractionText (t.nanos % nanosPerSecond)).toList ++ rest)))
        secondPieces =
      .ok (t.secondFields (if t.nanos % nanosPerSecond = 0 then none
        else some (t.nanos % nanosPerSecond)), rest) := by
  have h60 := t.clockSecond_le
  have hns := Nat.mod_lt t.nanos (show 0 < nanosPerSecond by decide)
  unfold Instant.secondText secondPieces
  rw [readPieces_cons_ok _ (Piece.read_literal _ _ _),
    readPieces_cons_ok _
      (Piece.read_number (readNumber_twoDigits (by decide) (by omega) _) t.set_second),
    readPieces_cons_ok _ (Piece.read_fractionText rfl hns rest hend)]
  rfl

theorem readPieces_literal_ne {fs : Fields} {c d : Char} (h : c ≠ d) (cs : List Char)
    (ps : List Piece) : readPieces fs (c :: cs) (.literal d :: ps) = .error .invalid := by
  simp [readPieces, Piece.read, expectChar, h, bind, Except.bind]

theorem readPieces_literal_nil (fs : Fields) (d : Char) (ps : List Piece) :
    readPieces fs [] (.literal d :: ps) = .error .tooShort := rfl

/-- An hour cannot start with a character that is neither a digit nor a blank. -/
theorem readPieces_hour_not_digit (fs : Fields) {c : Char} (hc : isDigit c = false)
    (hb : Text.isBlank c = false) (cs : List Char) (ps : List Piece) :
    ∃ e, readPieces fs (c :: cs) (.number .hour :: ps) = .error e := by
  obtain ⟨e, he⟩ := number_cons_of_not_digit hc cs (by decide : 0 < 1) 2
  exact ⟨e, by simp only [readPieces, Piece.read, readNumber, trimStart_cons cs hb, he, bind,
    Except.bind]⟩

/-- The blank piece takes one space before a text that starts with no blank. -/
theorem readPieces_blank_space (fs : Fields) {cs : List Char}
    (hc : ∀ c ∈ cs.head?, Text.isBlank c = false) (ps : List Piece) :
    readPieces fs (' ' :: cs) (.blank :: ps) = readPieces fs cs ps := by
  have htrim : Text.trimStart (' ' :: cs) = cs := by
    rw [Text.trimStart, List.dropWhile_cons_of_pos (by decide)]
    cases cs with
    | nil => rfl
    | cons c r => exact trimStart_cons r (hc c rfl)
  simp only [readPieces, Piece.read, htrim, bind, Except.bind, pure, Except.pure]

theorem Instant.hourMinuteText_head (t : Instant) (rest : List Char) :
    ∀ c ∈ (t.hourMinuteText ++ rest).head?, Text.isBlank c = false := by
  obtain ⟨c, cs, hcs, hc⟩ := zeroPad_cons 2 (t.secondOfDay / 3600)
  intro d hd
  rw [Instant.hourMinuteText, hcs] at hd
  cases Option.mem_some_iff.1 hd
  exact isBlank_of_isDigit hc

/-! ### The naive readers on whole texts -/

theorem readNaive_of_error {cs : List Char} {l : List Piece} {e : ReadError}
    (h : readPieces {} cs l = .error e) : readNaive cs l = .error e := by
  simp only [readNaive, readLayout, h, bind, Except.bind]

theorem readNaive_of_ok {cs : List Char} {l : List Piece} {fs : Fields}
    (h : readPieces {} cs l = .ok (fs, [])) : readNaive cs l = fs.toInstantAt 0 := by
  simp only [readNaive, readLayout, h, List.isEmpty_nil, if_true, bind, Except.bind, pure,
    Except.pure]

theorem firstNaive_cons_ok {cs : List Char} {l : List Piece} {t : Instant}
    (h : readNaive cs l = .ok t) (ls : List (List Piece)) : firstNaive cs (l :: ls) = some t := by
  simp only [firstNaive, h]

theorem firstNaive_cons_error {cs : List Char} {l : List Piece} {e : ReadError}
    (h : readNaive cs l = .error e) (ls : List (List Piece)) :
    firstNaive cs (l :: ls) = firstNaive cs ls := by
  simp only [firstNaive, h]

/-- The naive layouts read the UTC text of a representable instant to the second, with `T` or a
space, back to the instant, whatever its year. -/
theorem firstNaive_naiveText (t : Instant) (ht : t.InRange) {sep : Char}
    (hsep : sep = 'T' ∨ sep = ' ') : firstNaive (t.naiveText sep) naiveLayouts = some t := by
  have hns : (if t.nanos % nanosPerSecond = 0 then none else some (t.nanos % nanosPerSecond)).getD 0
      = t.nanos % nanosPerSecond := by
    split_ifs with h <;> simp [h]
  have hread := toInstantAt_of_local ht (by decide) (Int.sub_zero _)
    (Instant.local_secondFields t (Instant.date_year_mem t ht) hns none)
  -- after the separator the hour, the minute, the second and the fraction are read to the end
  have htail : readPieces t.dateFields (t.hourMinuteText ++ ':' :: (t.secondText ++
        (fractionText (t.nanos % nanosPerSecond)).toList)) (hourMinutePieces ++ secondPieces) =
      .ok (t.secondFields (if t.nanos % nanosPerSecond = 0 then none
        else some (t.nanos % nanosPerSecond)), []) := by
    rw [readPieces_hourMinute]
    simpa using readPieces_secondPieces t [] (by simp)
  unfold Instant.naiveText Instant.clockText naiveLayouts
  rcases hsep with rfl | rfl
  · -- `T`: the first layout reads the text
    refine firstNaive_cons_ok ((readNaive_of_ok ?_).trans hread) _
    rw [naiveT_eq, readPieces_naiveDate t ht, readPieces_cons_ok _ (Piece.read_literal _ _ _),
      htail]
    rfl
  · -- a space: the first layout stops at it, the second reads the text
    rw [firstNaive_cons_error (readNaive_of_error (e := .invalid) ?_)]
    · refine firstNaive_cons_ok ((readNaive_of_ok ?_).trans hread) _
      rw [naiveSpace_eq, readPieces_naiveDate t ht,
        readPieces_blank_space _ (t.hourMinuteText_head _), htail]
      rfl
    · rw [naiveT_eq, readPieces_naiveDate t ht, readPieces_literal_ne (by decide)]

/-- The naive layouts read the UTC text of a representable instant on a minute, to the minute,
with `T` or a space, back to the instant, whatever its year. -/
theorem firstNaive_naiveMinuteText (t : Instant) (ht : t.InRange) (h0 : t.secs % 60 = 0)
    (hn : t.nanos = 0) {sep : Char} (hsep : sep = 'T' ∨ sep = ' ') :
    firstNaive (t.naiveMinuteText sep) naiveLayouts = some t := by
  have hread := toInstantAt_of_local ht (by decide) (Int.sub_zero _)
    (Instant.local_minuteFields t (Instant.date_year_mem t ht) h0 hn)
  -- the layouts to the second run out of text after the minute
  have hshort : readPieces t.dateFields (t.hourMinuteText ++ []) (hourMinutePieces ++ secondPieces)
      = .error .tooShort := by
    rw [readPieces_hourMinute]
    rfl
  have hdone : readPieces t.dateFields (t.hourMinuteText ++ []) (hourMinutePieces ++ []) =
      .ok (t.minuteFields, []) := by
    rw [readPieces_hourMinute]
    rfl
  unfold Instant.naiveMinuteText naiveLayouts
  rw [← List.append_nil t.hourMinuteText]
  rcases hsep with rfl | rfl
  · -- `T`: the space layout stops at `T`, where it expects the hour
    obtain ⟨e, he⟩ := readPieces_hour_not_digit t.dateFields (c := 'T') (by decide) (by decide)
      (t.hourMinuteText ++ []) (.literal ':' :: .number .minute :: secondPieces)
    rw [firstNaive_cons_error (readNaive_of_error (e := .tooShort) ?_),
      firstNaive_cons_error (readNaive_of_error (e := e) ?_)]
    · refine firstNaive_cons_ok ((readNaive_of_ok ?_).trans hread) _
      rw [naiveTMinutes_eq, readPieces_naiveDate t ht,
        readPieces_cons_ok _ (Piece.read_literal _ _ _), hdone]
    · rw [naiveSpace_eq, readPieces_naiveDate t ht,
        readPieces_cons_ok _ (Piece.read_blank_cons _ _ (by decide))]
      exact he
    · rw [naiveT_eq, readPieces_naiveDate t ht, readPieces_cons_ok _ (Piece.read_literal _ _ _),
        hshort]
  · -- a space: the layouts with `T` stop at it, the space layout to the second runs out
    rw [firstNaive_cons_error (readNaive_of_error (e := .invalid) ?_),
      firstNaive_cons_error (readNaive_of_error (e := .tooShort) ?_),
      firstNaive_cons_error (readNaive_of_error (e := .invalid) ?_)]
    · refine firstNaive_cons_ok ((readNaive_of_ok ?_).trans hread) _
      rw [naiveSpaceMinutes_eq, readPieces_naiveDate t ht,
        readPieces_blank_space _ (t.hourMinuteText_head _), hdone]
    · rw [naiveTMinutes_eq, readPieces_naiveDate t ht, readPieces_literal_ne (by decide)]
    · rw [naiveSpace_eq, readPieces_naiveDate t ht,
        readPieces_blank_space _ (t.hourMinuteText_head _), hshort]
    · rw [naiveT_eq, readPieces_naiveDate t ht, readPieces_literal_ne (by decide)]

end MinuteWindow.Time
