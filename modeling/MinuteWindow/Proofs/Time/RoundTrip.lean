import Mathlib
import MinuteWindow.Proofs.Time.Calendar
import MinuteWindow.Proofs.Time.Numbers
import MinuteWindow.Time.Wire
/-! Minute keys in JSON: the loose RFC 3339 reader reads back what the writer writes.

The writer spells an instant out as year, month, day, hour, minute, second, an optional
fraction and `Z`. The loose reader reads a text piece by piece (`readPieces`), each piece a
number, a blank run, a literal or a fraction; each step below reads one piece of the written
text and leaves the rest. Two facts make every piece come back: each number ends where the
reader stops taking digits (`Numbers`), and every representable instant has a valid date in a
year the reader accepts (`Calendar`).

`Instant.readRfc3339Loose_toRfc3339`: the text of every representable instant, leap seconds
and years with a sign included, is read back to that instant.
`minuteKey_json_round_trip`: a minute key read from the JSON text of an instant is the minute
the instant lies in, and a minute key written and read again is itself. -/
namespace MinuteWindow.Time
open Text

/-! ### One piece at a time -/

theorem readPieces_cons_ok {fs fs' : Fields} {cs cs' : List Char} {p : Piece} (ps : List Piece)
    (h : p.read fs cs = .ok (fs', cs')) : readPieces fs cs (p :: ps) = readPieces fs' cs' ps := by
  simp only [readPieces, bind, Except.bind, h]

theorem Piece.read_blank_cons (fs : Fields) {c : Char} (cs : List Char)
    (h : Text.isBlank c = false) :
    Piece.read fs (c :: cs) .blank = .ok (fs, c :: cs) := by
  simp only [Piece.read, trimStart_cons cs h, pure, Except.pure]

theorem Piece.read_literal (fs : Fields) (c : Char) (cs : List Char) :
    Piece.read fs (c :: cs) (.literal c) = .ok (fs, cs) := by
  simp [Piece.read, expectChar, bind, Except.bind, pure, Except.pure]

theorem Piece.read_number {fs fs' : Fields} {f : Field} {cs rest : List Char} {v : Int}
    (hr : readNumber f cs = .ok (v, rest)) (hs : fs.set f v = .ok fs') :
    Piece.read fs cs (.number f) = .ok (fs', rest) := by
  simp only [Piece.read, bind, Except.bind, hr, hs, pure, Except.pure]

/-- A point and `k` digits are read as the nanoseconds they scale to. -/
theorem Piece.read_fractionDigits {fs : Fields} (hnone : fs.nanosecond = none) {k v ns : Nat}
    (hk1 : 1 ≤ k) (hk9 : k ≤ 9) (hv : v < Nat.pow 10 k) (hns : v * Nat.pow 10 (9 - k) = ns)
    (hns9 : ns ≤ 999999999) (rest : List Char) (hend : ∀ c ∈ rest.head?, isDigit c = false) :
    Piece.read fs ('.' :: ((zeroPad k v).toList ++ rest)) .fraction =
      .ok ({ fs with nanosecond := some ns }, rest) := by
  simp only [Piece.read, bind, Except.bind, readFraction_zeroPad hk1 hk9 hv rest hend, hns,
    Fields.setNanos, hns9, if_true, hnone, setOnce, pure, Except.pure]


/-! ### The date and the time of day -/

/-- The written fraction is read back as the nanoseconds it was written from. -/
theorem Piece.read_fractionText {fs : Fields} (hnone : fs.nanosecond = none) {ns : Nat}
    (hns : ns < nanosPerSecond) (rest : List Char)
    (hend : ∀ c ∈ rest.head?, isDigit c = false ∧ c ≠ '.') :
    Piece.read fs ((fractionText ns).toList ++ rest) .fraction =
      .ok ({ fs with nanosecond := if ns = 0 then none else some ns }, rest) := by
  by_cases h0 : ns = 0
  · -- no fraction is written, and the piece reads nothing
    subst h0
    have hfs : { fs with nanosecond := none } = fs := by cases fs; cases hnone; rfl
    rw [if_pos rfl, hfs, show fractionText 0 = "" from rfl]
    cases rest with
    | nil => rfl
    | cons c r =>
      have hc : c ≠ '.' := (hend c rfl).2
      simp [Piece.read, hc, pure, Except.pure]
  · obtain ⟨k, v, hk1, hk9, hv, hkv, htext⟩ := fractionText_digits hns h0
    rw [if_neg h0, htext, List.cons_append]
    exact Piece.read_fractionDigits hnone hk1 hk9 hv hkv
      (by simp only [nanosPerSecond] at hns; omega) rest (fun c hc => (hend c hc).1)

/-- The date of a text is read back from its year, month and day, whatever follows. -/
theorem readPieces_looseDate (d : Date) (hv : d.Valid) (hy : d.year.natAbs ≤ int64Max)
    (hfit : yearFits d.year = true) (rest : List Char) :
    readPieces {} ((yearText d.year).toList ++ '-' :: ((zeroPad 2 d.month).toList ++ '-' ::
        ((zeroPad 2 d.day).toList ++ rest))) looseDate =
      .ok ({ year := some d.year, month := some d.month, day := some d.day }, rest) := by
  obtain ⟨hm1, hm12, hd1, hd⟩ := hv
  have h31 := daysInMonth_le d.year d.month
  have hsy : ({} : Fields).set .year d.year = .ok { year := some d.year } := by
    simp [Fields.set, hfit, setOnce, bind, Except.bind, pure, Except.pure]
  have hsm : ({ year := some d.year } : Fields).set .month (d.month : Int) =
      .ok { year := some d.year, month := some d.month } := by
    simp [Fields.set, setOnce, bind, Except.bind, pure, Except.pure]
    omega
  have hsd : ({ year := some d.year, month := some d.month } : Fields).set .day (d.day : Int) =
      .ok { year := some d.year, month := some d.month, day := some d.day } := by
    simp [Fields.set, setOnce, bind, Except.bind, pure, Except.pure]
    omega
  unfold looseDate
  rw [readPieces_cons_ok _ (Piece.read_number (readNumber_yearText _ hy _) hsy),
    readPieces_cons_ok _ (Piece.read_blank_cons _ _ (by decide)),
    readPieces_cons_ok _ (Piece.read_literal _ _ _),
    readPieces_cons_ok _ (Piece.read_number (readNumber_twoDigits (by decide) (by omega) _) hsm),
    readPieces_cons_ok _ (Piece.read_blank_cons _ _ (by decide)),
    readPieces_cons_ok _ (Piece.read_literal _ _ _),
    readPieces_cons_ok _ (Piece.read_number (readNumber_twoDigits (by decide) (by omega) _) hsd)]
  rfl

/-- The time of day of a text is read back from its hour, minute, second and fraction, up to
a mark that is no digit, point or blank. -/
theorem readPieces_looseTime {fs : Fields} (hfs : fs.hour = none ∧ fs.minute = none ∧
      fs.second = none ∧ fs.nanosecond = none) {h mi s ns : Nat} (hh : h ≤ 23) (hmi : mi ≤ 59)
    (hs : s ≤ 60) (hns : ns < nanosPerSecond) (rest : List Char)
    (hend : ∀ c ∈ rest.head?, isDigit c = false ∧ c ≠ '.' ∧ Text.isBlank c = false) :
    readPieces fs ((zeroPad 2 h).toList ++ ':' :: ((zeroPad 2 mi).toList ++ ':' ::
        ((zeroPad 2 s).toList ++ ((fractionText ns).toList ++ rest)))) looseTime =
      .ok ({ fs with
        hour := some h, minute := some mi, second := some s,
        nanosecond := if ns = 0 then none else some ns }, rest) := by
  obtain ⟨hh0, hm0, hs0, hn0⟩ := hfs
  have hsh : fs.set .hour (h : Int) = .ok { fs with hour := some h } := by
    simp [Fields.set, setOnce, hh0, bind, Except.bind, pure, Except.pure]
    omega
  have hsm : ({ fs with hour := some h } : Fields).set .minute (mi : Int) =
      .ok { fs with hour := some h, minute := some mi } := by
    simp [Fields.set, setOnce, hm0, bind, Except.bind, pure, Except.pure]
    omega
  have hss : ({ fs with hour := some h, minute := some mi } : Fields).set .second (s : Int) =
      .ok { fs with hour := some h, minute := some mi, second := some s } := by
    simp [Fields.set, setOnce, hs0, bind, Except.bind, pure, Except.pure]
    omega
  have hblank : Text.trimStart rest = rest := by
    cases rest with
    | nil => rfl
    | cons c r => exact trimStart_cons r (hend c rfl).2.2
  unfold looseTime
  rw [readPieces_cons_ok _ (Piece.read_number (readNumber_twoDigits (by decide) (by omega) _) hsh),
    readPieces_cons_ok _ (Piece.read_blank_cons _ _ (by decide)),
    readPieces_cons_ok _ (Piece.read_literal _ _ _),
    readPieces_cons_ok _ (Piece.read_number (readNumber_twoDigits (by decide) (by omega) _) hsm),
    readPieces_cons_ok _ (Piece.read_blank_cons _ _ (by decide)),
    readPieces_cons_ok _ (Piece.read_literal _ _ _),
    readPieces_cons_ok _ (Piece.read_number (readNumber_twoDigits (by decide) (by omega) _) hss),
    readPieces_cons_ok _ (Piece.read_fractionText
      (show ({ fs with hour := some h, minute := some mi, second := some s } : Fields).nanosecond
        = none from hn0) hns rest
      (fun c hc => ⟨(hend c hc).1, (hend c hc).2.1⟩))]
  simp only [readPieces, Piece.read, hblank, bind, Except.bind, pure, Except.pure]

/-! ### Instants -/

namespace Instant

/-- The text of an instant with the `Z` mark, field by field. -/
theorem toRfc3339_zulu_toList (t : Instant) :
    (t.toRfc3339 .zulu).toList =
      (yearText t.date.year).toList ++ '-' :: ((zeroPad 2 t.date.month).toList ++ '-' ::
        ((zeroPad 2 t.date.day).toList ++ 'T' :: ((zeroPad 2 (t.secondOfDay / 3600)).toList ++
          ':' :: ((zeroPad 2 (t.secondOfDay % 3600 / 60)).toList ++ ':' ::
            ((zeroPad 2 (t.secondOfDay % 60 +
                if nanosPerSecond ≤ t.nanos then 1 else 0)).toList ++
              ((fractionText (if nanosPerSecond ≤ t.nanos then t.nanos - nanosPerSecond
                else t.nanos)).toList ++ ['Z'])))))) := by
  simp [toRfc3339, UtcMark.text]

/-- The fields the RFC 3339 text of an instant spells out, and the zero offset of its `Z`. -/
def writtenFields (t : Instant) : Fields :=
  let frac := if nanosPerSecond ≤ t.nanos then t.nanos - nanosPerSecond else t.nanos
  { year := some t.date.year, month := some t.date.month, day := some t.date.day
    hour := some (t.secondOfDay / 3600), minute := some (t.secondOfDay % 3600 / 60)
    second := some (t.secondOfDay % 60 + if nanosPerSecond ≤ t.nanos then 1 else 0)
    nanosecond := if frac = 0 then none else some frac
    offset := some 0 }

theorem secondOfDay_lt (t : Instant) : t.secondOfDay < 86400 := by
  unfold secondOfDay
  omega

theorem secs_eq (t : Instant) : t.secs = t.secs / 86400 * 86400 + t.secondOfDay := by
  unfold secondOfDay
  omega

/-- A leap second falls in the last second of a minute. -/
theorem secondOfDay_leap (t : Instant) (h : nanosPerSecond ≤ t.nanos) :
    t.secondOfDay % 60 = 59 := by
  have := t.leap_last h
  unfold secondOfDay
  omega

theorem ofParts?_self (t : Instant) (ht : t.InRange) : Instant.ofParts? t.secs t.nanos = .ok t := by
  unfold Instant.ofParts?
  rw [dif_pos ⟨t.nanos_lt, t.leap_last⟩,
    if_pos (show minSecs ≤ t.secs ∧ t.secs ≤ maxSecs from ht)]

theorem days_writtenFields (t : Instant) (ht : t.InRange) :
    t.writtenFields.days = .ok (t.secs / 86400) := by
  obtain ⟨hlo, hhi⟩ := date_year_mem t ht
  simp only [Fields.days, writtenFields]
  rw [if_pos ⟨hlo, hhi, date_valid t⟩]
  exact congrArg Except.ok (date_toDays t)

/-- The time fields give back the second of the day and the nanoseconds, a leap second as
second 59 with a nanosecond part past one second. -/
theorem timeOfDay_writtenFields (t : Instant) :
    t.writtenFields.timeOfDay = .ok (t.secondOfDay, t.nanos) := by
  have hsod := secondOfDay_lt t
  simp only [Fields.timeOfDay, writtenFields, Option.getD_some]
  by_cases hleap : nanosPerSecond ≤ t.nanos
  · -- a leap second is written as second 60 and read as second 59 plus one second
    have h59 := secondOfDay_leap t hleap
    simp only [hleap, ↓reduceIte, show t.secondOfDay % 60 + 1 = 60 by omega]
    by_cases h0 : t.nanos - nanosPerSecond = 0 <;>
      simp only [h0, ↓reduceIte, Option.isSome_some] <;>
      simp only [bind, Except.bind, pure, Except.pure] <;>
      exact congrArg Except.ok (Prod.ext (by omega) (by omega))
  · simp only [hleap, ↓reduceIte, Nat.add_zero]
    split
    · omega
    · rw [if_pos (show t.secondOfDay % 60 ≤ 59 by omega)]
      by_cases h0 : t.nanos = 0 <;>
        simp only [h0, ↓reduceIte, Option.isSome_some] <;>
        simp only [bind, Except.bind, pure, Except.pure] <;>
        exact congrArg Except.ok (Prod.ext (by omega) (by omega))

theorem toInstant_writtenFields (t : Instant) (ht : t.InRange) :
    t.writtenFields.toInstant = .ok t := by
  have hoff : t.writtenFields.offset = some 0 := rfl
  have hlocal : t.writtenFields.local = .ok (t.secs, t.nanos) := by
    simp only [Fields.local, days_writtenFields t ht, timeOfDay_writtenFields t]
    rw [← secs_eq]
  simp only [Fields.toInstant, hoff, Fields.toInstantAt, hlocal, bind, Except.bind]
  rw [if_pos (by decide), Int.sub_zero, ofParts?_self t ht]
  rfl

/-- The loose reader reads the RFC 3339 text of every representable instant back to that
instant. -/
theorem readRfc3339Loose_toRfc3339 (t : Instant) (ht : t.InRange) :
    readRfc3339Loose (t.toRfc3339 .zulu).toList = .ok t := by
  obtain ⟨hlo, hhi⟩ := date_year_mem t ht
  have hyear : t.date.year.natAbs ≤ int64Max := by
    simp only [minYear, maxYear, int64Max] at hlo hhi ⊢
    omega
  have hfit : yearFits t.date.year = true := by
    simp only [minYear, maxYear] at hlo hhi
    simp only [yearFits, Bool.and_eq_true, decide_eq_true_eq]
    omega
  have hsod := secondOfDay_lt t
  have hlt := t.nanos_lt
  have hsec : t.secondOfDay % 60 + (if nanosPerSecond ≤ t.nanos then 1 else 0) ≤ 60 := by
    split_ifs <;> omega
  have hfrac : (if nanosPerSecond ≤ t.nanos then t.nanos - nanosPerSecond else t.nanos) <
      nanosPerSecond := by
    simp only [nanosPerSecond] at hlt
    split <;> simp only [nanosPerSecond] at * <;> omega
  have hz : ∀ c ∈ ['Z'].head?, isDigit c = false ∧ c ≠ '.' ∧ Text.isBlank c = false := by
    intro c hc
    cases Option.mem_some_iff.1 hc
    decide
  rw [toRfc3339_zulu_toList]
  unfold readRfc3339Loose
  rw [readPieces_looseDate t.date (date_valid t) hyear hfit]
  simp only [bind, Except.bind, dateTimeSeparator]
  rw [readPieces_looseTime ⟨rfl, rfl, rfl, rfl⟩ (by omega) (by omega) hsec hfrac ['Z'] hz]
  exact toInstant_writtenFields t ht

end Instant

/-- A minute key is read from the JSON text of any representable instant as the minute the
instant lies in, and from its own JSON text as itself. -/
theorem minuteKey_json_round_trip :
    (∀ t : Instant, t.InRange → Minute.ofJson? (.string (t.toRfc3339 .zulu)) = .ok t.minute) ∧
      ∀ m : Minute, m.start.InRange → Minute.ofJson? m.toJson = .ok m := by
  have hread : ∀ t : Instant, t.InRange →
      Minute.ofJson? (.string (t.toRfc3339 .zulu)) = .ok t.minute := fun t ht => by
    simp only [Minute.ofJson?, Instant.readRfc3339Loose_toRfc3339 t ht]
  refine ⟨hread, fun m hm => ?_⟩
  have hstart : m.start.minute = m := by
    show (⟨m.index * 60 / 60⟩ : Minute) = m
    rw [Int.mul_ediv_cancel _ (by decide)]
  have h := hread m.start hm
  rw [hstart] at h
  exact h

/-- The last representable instant, a leap second with every fraction digit, and the earliest
representable minute. -/
theorem minuteKey_json_round_trip_extremes :
    (Instant.InRange ⟨maxSecs, 1999999999, by decide, fun _ => by decide⟩ ∧
      Minute.ofJson? (.string
          ((⟨maxSecs, 1999999999, by decide, fun _ => by decide⟩ : Instant).toRfc3339 .zulu)) =
        .ok (⟨maxSecs / 60⟩ : Minute)) ∧
    (Minute.first.start.InRange ∧ Minute.ofJson? Minute.first.toJson = .ok Minute.first) :=
  ⟨⟨by decide, minuteKey_json_round_trip.1 _ (by decide)⟩,
    ⟨by decide, minuteKey_json_round_trip.2 _ (by decide)⟩⟩

end MinuteWindow.Time
