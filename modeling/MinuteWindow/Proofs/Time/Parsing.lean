import Mathlib
import MinuteWindow.Proofs.Time.Layouts
/-! The lenient timestamp reader reads every layout it documents.

`Instant.parse?` trims blanks, then tries the strict RFC 3339 reader, the four naive layouts in
turn, and last a count of unix seconds. Blanks around a text whose ends are not blank are what
the trim removes (`trim_around`). An RFC 3339 text whose clock shows a year of four digits is read
by the first stage. A naive text carries no offset, so the first stage refuses it
(`readRfc3339_without_offset`), and the first naive layout of its shape reads it. A decimal count
of seconds is refused by every earlier stage: the strict reader wants a `-` after four digits, and
every naive layout a `-` after the year (`readRfc3339_digits`, `firstNaive_signedDigits`).

`parse_reads_every_layout`: around any blanks, each documented layout of an instant reads back as
the instant, and a decimal count of seconds reads as the unix time it counts exactly when that
time is representable. -/
namespace MinuteWindow.Time
open Text

/-! ### Blanks around the text -/

theorem trimStart_of_head {cs : List Char} (h : ∀ c ∈ cs.head?, isBlank c = false) :
    trimStart cs = cs := by
  cases cs with
  | nil => rfl
  | cons c r => exact trimStart_cons r (h c rfl)

/-- Trimming removes the blanks around a text whose ends are not blank, and nothing else. -/
theorem trim_around {pre core post : List Char} (hpre : ∀ c ∈ pre, isBlank c = true)
    (hpost : ∀ c ∈ post, isBlank c = true) (hne : core ≠ [])
    (hhead : ∀ c ∈ core.head?, isBlank c = false)
    (hlast : ∀ c ∈ core.getLast?, isBlank c = false) :
    trim (pre ++ core ++ post) = core := by
  have hfront : trimStart (pre ++ core ++ post) = core ++ post := by
    rw [List.append_assoc, trimStart, List.dropWhile_append_of_pos hpre, ← trimStart]
    exact trimStart_of_head (by rwa [List.head?_append_of_ne_nil _ hne])
  have hback : trimStart (core ++ post).reverse = core.reverse := by
    rw [List.reverse_append, trimStart,
      List.dropWhile_append_of_pos (fun c hc => hpost c (List.mem_reverse.1 hc)), ← trimStart]
    exact trimStart_of_head (by rwa [List.head?_reverse])
  rw [trim, hfront, trimEnd, hback, List.reverse_reverse]

section Cascade
variable {raw : String} {cs : List Char} (htrim : trim raw.toList = cs) (hne : cs ≠ [])
include htrim hne

/-- A text that trims to one the strict reader reads is read by it. -/
theorem parse?_of_readRfc3339 {t : Instant} (h : readRfc3339 cs = .ok t) :
    Instant.parse? raw = some t := by
  have hempty : cs.isEmpty = false := List.isEmpty_eq_false_iff.2 hne
  simp only [Instant.parse?, htrim, hempty, h, Bool.false_eq_true, if_false]

/-- Otherwise the first naive layout that reads it does. -/
theorem parse?_of_firstNaive {e : ReadError} {t : Instant} (h₁ : readRfc3339 cs = .error e)
    (h₂ : firstNaive cs naiveLayouts = some t) : Instant.parse? raw = some t := by
  have hempty : cs.isEmpty = false := List.isEmpty_eq_false_iff.2 hne
  simp only [Instant.parse?, htrim, hempty, h₁, h₂, Bool.false_eq_true, if_false]

/-- Otherwise it is read as a count of unix seconds, if it is one in range. -/
theorem parse?_of_readInt64 {e : ReadError} (h₁ : readRfc3339 cs = .error e)
    (h₂ : firstNaive cs naiveLayouts = none) :
    Instant.parse? raw = (readInt64 cs).bind fun secs =>
      if minSecs ≤ secs ∧ secs ≤ maxSecs then some (Instant.ofSecs secs) else none := by
  have hempty : cs.isEmpty = false := List.isEmpty_eq_false_iff.2 hne
  simp only [Instant.parse?, htrim, hempty, h₁, h₂, Bool.false_eq_true, if_false]

end Cascade

/-! ### Characters that are not blank -/

theorem zeroPad_nonblank (w n : Nat) : ∀ c ∈ (zeroPad w n).toList, isBlank c = false :=
  fun c hc => isBlank_of_isDigit (zeroPad_digits w n c hc)

theorem yearText_nonblank (y : Int) : ∀ c ∈ (yearText y).toList, isBlank c = false := by
  unfold yearText
  split
  · exact zeroPad_nonblank _ _
  · rw [String.toList_append, List.forall_mem_append]
    refine ⟨?_, zeroPad_nonblank _ _⟩
    split
    · simpa using (by decide : isBlank '-' = false)
    · simpa using (by decide : isBlank '+' = false)

theorem Instant.dateText_nonblank (t : Instant) : ∀ c ∈ t.dateText, isBlank c = false := by
  simp only [Instant.dateText, List.forall_mem_append, List.forall_mem_cons]
  exact ⟨yearText_nonblank _, by decide, zeroPad_nonblank _ _, by decide, zeroPad_nonblank _ _⟩

theorem Instant.dateText_ne_nil (t : Instant) : t.dateText ≠ [] := by
  simp [Instant.dateText]

theorem Instant.hourMinuteText_nonblank (t : Instant) :
    ∀ c ∈ t.hourMinuteText, isBlank c = false := by
  simp only [Instant.hourMinuteText, List.forall_mem_append, List.forall_mem_cons]
  exact ⟨zeroPad_nonblank _ _, by decide, zeroPad_nonblank _ _⟩

theorem OffsetMark.text_nonblank (mark : OffsetMark) : ∀ c ∈ mark.text, isBlank c = false := by
  cases mark with
  | zulu lower =>
    cases lower
    · simpa [OffsetMark.text] using (by decide : isBlank 'Z' = false)
    · simpa [OffsetMark.text] using (by decide : isBlank 'z' = false)
  | hoursMinutes negative h m =>
    simp only [OffsetMark.text, List.forall_mem_cons, List.forall_mem_append]
    refine ⟨?_, zeroPad_nonblank _ _, by decide, zeroPad_nonblank _ _⟩
    split
    · decide
    · decide

theorem OffsetMark.text_ne_nil (mark : OffsetMark) : mark.text ≠ [] := by
  cases mark <;> simp [OffsetMark.text]

/-- A text that starts with a date and ends with a text of no blanks has ends that are not blank. -/
theorem ends_nonblank (t : Instant) (mid tail : List Char) (htail : tail ≠ [])
    (hnb : ∀ c ∈ tail, isBlank c = false) :
    (∀ c ∈ (t.dateText ++ mid ++ tail).head?, isBlank c = false) ∧
      ∀ c ∈ (t.dateText ++ mid ++ tail).getLast?, isBlank c = false := by
  constructor
  · intro c hc
    rw [List.append_assoc, List.head?_append_of_ne_nil _ t.dateText_ne_nil] at hc
    exact t.dateText_nonblank c (List.mem_of_mem_head? hc)
  · intro c hc
    rw [List.getLast?_append_of_ne_nil _ htail] at hc
    exact hnb c (List.mem_of_getLast? hc)

/-! ### Decimal counts of seconds -/

theorem decimal_eq_zeroPad (k : Nat) : decimal k = zeroPad 0 k := by
  simp [decimal, zeroPad]

theorem signText_decimal_nonblank (sign : Option Bool) (k : Nat) :
    ∀ c ∈ signText sign ++ (decimal k).toList, isBlank c = false := by
  rw [decimal_eq_zeroPad, List.forall_mem_append]
  refine ⟨?_, zeroPad_nonblank _ _⟩
  cases sign with
  | none => simp [signText]
  | some negative =>
    cases negative
    · simpa [signText] using (by decide : isBlank '+' = false)
    · simpa [signText] using (by decide : isBlank '-' = false)

/-- What the number reader leaves is the text after the digits it took, at least `lo` of them. -/
theorem number_ok_drop {cs : List Char} {lo hi : Nat} {p : Nat × List Char}
    (h : number cs lo hi = .ok p) : ∃ n, lo ≤ n ∧ p.2 = cs.drop n := by
  unfold number at h
  split at h
  · cases h
  · simp only at h
    split at h
    · cases h
    · split at h
      · cases h
      · cases h
        exact ⟨_, by omega, rfl⟩

/-- A field's number reader leaves the text after at least one character, once blanks are
dropped. -/
theorem readNumber_ok_drop {f : Field} {cs rest : List Char} {v : Int}
    (h : readNumber f cs = .ok (v, rest)) : ∃ n, 0 < n ∧ rest = (trimStart cs).drop n := by
  -- every branch reads a number of at least one digit, after a sign if there is one
  have hread : ∀ {xs : List Char} {lo hi : Nat} {g : Nat → Int}, 0 < lo →
      (number xs lo hi >>= fun p => pure (g p.1, p.2)) = (.ok (v, rest) : Except ReadError _) →
      ∃ n, 0 < n ∧ rest = xs.drop n := by
    intro xs lo hi g hlo hg
    cases hn : number xs lo hi with
    | error e => simp [hn, bind, Except.bind] at hg
    | ok p =>
      obtain ⟨n, hn', hp⟩ := number_ok_drop hn
      simp only [hn, bind, Except.bind, pure, Except.pure, Except.ok.injEq, Prod.mk.injEq] at hg
      exact ⟨n, by omega, hg.2 ▸ hp⟩
  unfold readNumber at h
  dsimp only at h
  split at h
  · rename_i r heq
    obtain ⟨n, hn, hr⟩ := hread (g := fun v => -(v : Int)) (by decide) h
    exact ⟨n + 1, by omega, by rw [heq, hr]; rfl⟩
  · rename_i r heq
    obtain ⟨n, hn, hr⟩ := hread (g := fun v => (v : Int)) (by decide) h
    exact ⟨n + 1, by omega, by rw [heq, hr]; rfl⟩
  · exact hread (g := fun v => (v : Int)) (by decide) h
  · exact hread (g := fun v => (v : Int)) (by decide) h

/-- Digits, or nothing, are no `-`. -/
theorem expectChar_dash_of_digits {cs : List Char} (h : ∀ c ∈ cs, isDigit c = true) :
    ∃ e, expectChar '-' cs = .error e := by
  cases cs with
  | nil => exact ⟨.tooShort, rfl⟩
  | cons c r =>
    have hc : c ≠ '-' := by
      rintro rfl
      exact absurd (h '-' List.mem_cons_self) (by decide)
    exact ⟨.invalid, by simp only [expectChar, hc, if_false]⟩

/-- A run of digits is no strict RFC 3339 text: after four digits of a year it has no `-`. -/
theorem readRfc3339_digits {cs : List Char} (h : ∀ c ∈ cs, isDigit c = true) :
    ∃ e, readRfc3339 cs = .error e := by
  rw [readRfc3339_eq]
  unfold strictUpToMinute
  cases hn : number cs 4 4 with
  | error e => exact ⟨e, by simp only [bind, Except.bind]⟩
  | ok r =>
    obtain ⟨v, rest⟩ := r
    obtain ⟨n, -, hrest⟩ := number_ok_drop hn
    dsimp only at hrest
    cases hs : ({} : Fields).set .year v with
    | error e => exact ⟨e, by simp only [hs, bind, Except.bind]⟩
    | ok fs =>
      -- what follows the year is digits, or nothing
      have hdig : ∀ c ∈ rest, isDigit c = true := fun c hc =>
        h c (List.mem_of_mem_drop (hrest ▸ hc))
      obtain ⟨e, he⟩ := expectChar_dash_of_digits hdig
      exact ⟨e, by simp only [hs, he, bind, Except.bind]⟩

/-- A signed run of digits is no strict RFC 3339 text either. -/
theorem readRfc3339_signedDigits (sign : Option Bool) (k : Nat) :
    ∃ e, readRfc3339 (signText sign ++ (decimal k).toList) = .error e := by
  cases sign with
  | none => exact readRfc3339_digits (by rw [decimal_eq_zeroPad]; exact zeroPad_digits 0 k)
  | some negative =>
    -- the sign stands where the year's first digit should
    have hsign : ∃ c, signText (some negative) = [c] ∧ isDigit c = false := by
      cases negative
      · exact ⟨'+', rfl, by decide⟩
      · exact ⟨'-', rfl, by decide⟩
    obtain ⟨c, hc, hd⟩ := hsign
    obtain ⟨e, he⟩ := number_cons_of_not_digit hd (decimal k).toList (by decide : 0 < 4) 4
    rw [hc, List.singleton_append, readRfc3339_eq]
    exact ⟨e, by simp only [strictUpToMinute, he, bind, Except.bind]⟩

/-- A number read from a signed run of digits leaves digits, or nothing. -/
theorem readNumber_signedDigits {f : Field} {sign : Option Bool} {k : Nat} {v : Int}
    {rest : List Char} (h : readNumber f (signText sign ++ (decimal k).toList) = .ok (v, rest)) :
    ∀ c ∈ rest, isDigit c = true := by
  have hnb := signText_decimal_nonblank sign k
  obtain ⟨n, hn, hr⟩ := readNumber_ok_drop h
  rw [trimStart_of_head fun c hc => hnb c (List.mem_of_mem_head? hc)] at hr
  obtain ⟨m, rfl⟩ : ∃ m, n = m + 1 := ⟨n - 1, by omega⟩
  rw [← List.drop_tail] at hr
  -- past its first character the text is digits
  have htail : ∀ c ∈ (signText sign ++ (decimal k).toList).tail, isDigit c = true := by
    rw [decimal_eq_zeroPad]
    cases sign with
    | none => exact fun c hc => zeroPad_digits 0 k c (List.mem_of_mem_tail hc)
    | some negative => cases negative <;> exact zeroPad_digits 0 k
  intro c hc
  exact htail c (List.mem_of_mem_drop (hr ▸ hc))

/-- A signed run of digits is no naive date: after the year it has no `-`. -/
theorem firstNaive_signedDigits (sign : Option Bool) (k : Nat) :
    firstNaive (signText sign ++ (decimal k).toList) naiveLayouts = none := by
  have hdate : ∀ ps : List Piece, ∃ e, readPieces {} (signText sign ++ (decimal k).toList)
      (naiveDate ++ ps) = .error e := by
    intro ps
    simp only [naiveDate, List.cons_append, readPieces, Piece.read]
    cases hr : readNumber .year (signText sign ++ (decimal k).toList) with
    | error e => exact ⟨e, by simp only [bind, Except.bind]⟩
    | ok r =>
      obtain ⟨v, rest⟩ := r
      have hdig := readNumber_signedDigits hr
      cases hs : ({} : Fields).set .year v with
      | error e => exact ⟨e, by simp only [hs, bind, Except.bind]⟩
      | ok fs =>
        obtain ⟨e, he⟩ := expectChar_dash_of_digits hdig
        exact ⟨e, by simp only [hs, he, bind, Except.bind, pure, Except.pure]⟩
  obtain ⟨e₁, h₁⟩ := hdate (.literal 'T' :: (hourMinutePieces ++ secondPieces))
  obtain ⟨e₂, h₂⟩ := hdate (.blank :: (hourMinutePieces ++ secondPieces))
  obtain ⟨e₃, h₃⟩ := hdate (.literal 'T' :: (hourMinutePieces ++ []))
  obtain ⟨e₄, h₄⟩ := hdate (.blank :: (hourMinutePieces ++ []))
  rw [naiveLayouts, firstNaive_cons_error (readNaive_of_error (naiveT_eq ▸ h₁)),
    firstNaive_cons_error (readNaive_of_error (naiveSpace_eq ▸ h₂)),
    firstNaive_cons_error (readNaive_of_error (naiveTMinutes_eq ▸ h₃)),
    firstNaive_cons_error (readNaive_of_error (naiveSpaceMinutes_eq ▸ h₄))]
  rfl

/-- A signed run of digits is read as the integer it writes, when that is a signed 64-bit one. -/
theorem readInt64_signedDigits (sign : Option Bool) (k : Nat) :
    readInt64 (signText sign ++ (decimal k).toList) =
      if -(int64Max + 1 : Int) ≤ signedValue sign k ∧ signedValue sign k ≤ int64Max then
        some (signedValue sign k) else none := by
  rw [decimal_eq_zeroPad]
  obtain ⟨c, cs, hcs, hc⟩ := zeroPad_cons 0 k
  have hdig := zeroPad_digits 0 k
  have hval := digitsValue_zeroPad 0 k
  rw [hcs] at hdig hval ⊢
  have hall : (c :: cs).all isDigit = true := List.all_eq_true.2 hdig
  cases sign with
  | none =>
    have hc1 : c ≠ '-' := by rintro rfl; exact absurd hc (by decide)
    have hc2 : c ≠ '+' := by rintro rfl; exact absurd hc (by decide)
    simp [readInt64, signText, signedValue, hc1, hc2, hall, hval]
    by_cases hk : k ≤ int64Max
    · rw [if_pos hk, if_pos ⟨by omega, hk⟩]
    · rw [if_neg hk, if_neg fun h => hk h.2]
  | some negative =>
    cases negative
    · simp [readInt64, signText, signedValue, hall, hval]
      by_cases hk : k ≤ int64Max
      · rw [if_pos hk, if_pos ⟨by omega, hk⟩]
      · rw [if_neg hk, if_neg fun h => hk h.2]
    · simp [readInt64, signText, signedValue, hall, hval]
      by_cases hk : k ≤ int64Max + 1
      · rw [if_pos hk, if_pos (by omega)]
      · rw [if_neg hk, if_neg (by omega)]

/-! ### Each layout read back -/

/-- Fraction digits are not blank. -/
theorem fractionPart_nonblank {ds : List Char} (hds : ∀ c ∈ ds, isDigit c = true) :
    ∀ c ∈ fractionPart ds, isBlank c = false := by
  unfold fractionPart
  split
  · simp
  · exact List.forall_mem_cons.2 ⟨by decide, fun c hc => isBlank_of_isDigit (hds c hc)⟩

/-- An instant's RFC 3339 text at a valid offset, between blanks, is read back as the instant
whenever the clock at that offset shows a year of four digits. -/
theorem parse?_rfc3339Text (pre post : List Char) (hpre : ∀ c ∈ pre, isBlank c = true)
    (hpost : ∀ c ∈ post, isBlank c = true) (t : Instant) (ht : t.InRange) {mark : OffsetMark}
    (hv : mark.Valid) {sep : Char} (hsep : sep = 'T' ∨ sep = 't' ∨ sep = ' ') {ds : List Char}
    (hds : FractionOf ds (t.nanos % nanosPerSecond))
    (hy : 0 ≤ (t.atOffset mark).date.year ∧ (t.atOffset mark).date.year ≤ 9999) :
    Instant.parse? (String.ofList (pre ++ t.rfc3339Text mark sep ds ++ post)) = some t := by
  have hne : t.rfc3339Text mark sep ds ≠ [] := fun h =>
    mark.text_ne_nil (List.append_eq_nil_iff.1 h).2
  -- the text runs from a date to the mark, neither of which holds a blank
  have hends := ends_nonblank (t.atOffset mark) (sep :: ((t.atOffset mark).hourMinuteText ++
    ':' :: ((t.atOffset mark).secondText ++ fractionPart ds))) mark.text mark.text_ne_nil
    mark.text_nonblank
  have htrim : trim (String.ofList (pre ++ t.rfc3339Text mark sep ds ++ post)).toList =
      t.rfc3339Text mark sep ds := by
    rw [String.toList_ofList]
    exact trim_around hpre hpost hne hends.1 hends.2
  exact parse?_of_readRfc3339 htrim hne (readRfc3339_rfc3339Text t ht hv hsep hds hy)

/-- An instant's naive UTC text to the second, between blanks, is read back as the instant,
whatever its year. -/
theorem parse?_naiveText (pre post : List Char) (hpre : ∀ c ∈ pre, isBlank c = true)
    (hpost : ∀ c ∈ post, isBlank c = true) (t : Instant) (ht : t.InRange) {sep : Char}
    (hsep : sep = 'T' ∨ sep = ' ') :
    Instant.parse? (String.ofList (pre ++ t.naiveText sep ++ post)) = some t := by
  obtain ⟨ds, hds, hfrac⟩ :=
    fractionText_eq_fractionPart (Nat.mod_lt t.nanos (by decide : 0 < nanosPerSecond))
  have htext : t.naiveText sep = t.dateText ++ ([sep] ++ (t.hourMinuteText ++
      ':' :: (t.secondText ++ fractionPart ds))) := by
    rw [Instant.naiveText, Instant.clockText, hfrac]
    rfl
  have hne : t.naiveText sep ≠ [] := by simp [htext]
  -- after the separator the text holds no blank
  have hends := ends_nonblank t [sep] (t.hourMinuteText ++
      ':' :: (t.secondText ++ fractionPart ds)) (by simp) (by
    simp only [Instant.secondText, List.forall_mem_append, List.forall_mem_cons]
    exact ⟨t.hourMinuteText_nonblank, by decide, zeroPad_nonblank _ _, fractionPart_nonblank hds.1⟩)
  rw [List.append_assoc, ← htext] at hends
  have htrim : trim (String.ofList (pre ++ t.naiveText sep ++ post)).toList = t.naiveText sep := by
    rw [String.toList_ofList]
    exact trim_around hpre hpost hne hends.1 hends.2
  -- the strict reader finds no offset; the naive layouts read the text
  obtain ⟨e, he⟩ := readRfc3339_without_offset t
    (show sep = 'T' ∨ sep = 't' ∨ sep = ' ' by rcases hsep with h | h <;> simp [h])
    (.inr ⟨ds, hds, rfl⟩)
  rw [← List.singleton_append, ← htext] at he
  exact parse?_of_firstNaive htrim hne he (firstNaive_naiveText t ht hsep)

/-- An instant's naive UTC text to the minute, between blanks, is read back as the instant when
the instant lies on a minute, whatever its year. -/
theorem parse?_naiveMinuteText (pre post : List Char) (hpre : ∀ c ∈ pre, isBlank c = true)
    (hpost : ∀ c ∈ post, isBlank c = true) (t : Instant) (ht : t.InRange) (h0 : t.secs % 60 = 0)
    (hn : t.nanos = 0) {sep : Char} (hsep : sep = 'T' ∨ sep = ' ') :
    Instant.parse? (String.ofList (pre ++ t.naiveMinuteText sep ++ post)) = some t := by
  have hne : t.naiveMinuteText sep ≠ [] := by simp [Instant.naiveMinuteText]
  have hends := ends_nonblank t [sep] t.hourMinuteText (by simp [Instant.hourMinuteText])
    t.hourMinuteText_nonblank
  rw [List.append_assoc] at hends
  have htrim : trim (String.ofList (pre ++ t.naiveMinuteText sep ++ post)).toList =
      t.naiveMinuteText sep := by
    rw [String.toList_ofList]
    exact trim_around hpre hpost hne hends.1 hends.2
  -- the strict reader finds no seconds; the naive layouts read the text
  obtain ⟨e, he⟩ := readRfc3339_without_offset t
    (show sep = 'T' ∨ sep = 't' ∨ sep = ' ' by rcases hsep with h | h <;> simp [h]) (.inl rfl)
  rw [List.append_nil] at he
  have he' : readRfc3339 (t.naiveMinuteText sep) = .error e := he
  exact parse?_of_firstNaive htrim hne he' (firstNaive_naiveMinuteText t ht h0 hn hsep)

/-- A decimal count of seconds with an optional sign, between blanks, is read as the unix time
it counts when that time is representable, and as nothing otherwise. -/
theorem parse?_signedDigits (pre post : List Char) (hpre : ∀ c ∈ pre, isBlank c = true)
    (hpost : ∀ c ∈ post, isBlank c = true) (sign : Option Bool) (k : Nat) :
    Instant.parse? (String.ofList (pre ++ (signText sign ++ (decimal k).toList) ++ post)) =
      if minSecs ≤ signedValue sign k ∧ signedValue sign k ≤ maxSecs then
        some (Instant.ofSecs (signedValue sign k)) else none := by
  have hnb := signText_decimal_nonblank sign k
  have hne : signText sign ++ (decimal k).toList ≠ [] := by
    rw [decimal_eq_zeroPad]
    exact fun h => List.ne_nil_of_length_pos (length_zeroPad_pos 0 k) (List.append_eq_nil_iff.1 h).2
  have htrim : trim (String.ofList (pre ++ (signText sign ++ (decimal k).toList) ++ post)).toList =
      signText sign ++ (decimal k).toList := by
    rw [String.toList_ofList]
    exact trim_around hpre hpost hne (fun c hc => hnb c (List.mem_of_mem_head? hc))
      (fun c hc => hnb c (List.mem_of_getLast? hc))
  obtain ⟨e, he⟩ := readRfc3339_signedDigits sign k
  rw [parse?_of_readInt64 htrim hne he (firstNaive_signedDigits sign k), readInt64_signedDigits]
  -- every representable time is a signed 64-bit count of seconds
  by_cases hr : minSecs ≤ signedValue sign k ∧ signedValue sign k ≤ maxSecs
  · have hi : -(int64Max + 1 : Int) ≤ signedValue sign k ∧ signedValue sign k ≤ int64Max := by
      simp only [minSecs, maxSecs, int64Max] at hr ⊢
      omega
    rw [if_pos hi, Option.bind_some, if_pos hr]
  · rw [if_neg hr]
    split
    · rw [Option.bind_some, if_neg hr]
    · rfl

/-- **The lenient reader reads every documented layout.** Between any blanks: an instant's
RFC 3339 text at a valid offset, with `T`, `t` or a space and any fraction that gives its
nanoseconds exactly, is read back as the instant whenever the clock at that offset shows a year
of four digits; its naive UTC text to the second, with `T` or a space, is read back as the instant
whatever its year, and so is its text to the minute when it lies on a minute; and a decimal count
of seconds, with or without a sign, is read as the unix time it counts exactly when that time is
representable, and as nothing otherwise. -/
theorem parse_reads_every_layout (pre post : List Char) (hpre : ∀ c ∈ pre, isBlank c = true)
    (hpost : ∀ c ∈ post, isBlank c = true) :
    (∀ (t : Instant) (mark : OffsetMark) (sep : Char) (ds : List Char), t.InRange →
      mark.Valid → (sep = 'T' ∨ sep = 't' ∨ sep = ' ') →
      FractionOf ds (t.nanos % nanosPerSecond) →
      0 ≤ (t.atOffset mark).date.year ∧ (t.atOffset mark).date.year ≤ 9999 →
      Instant.parse? (String.ofList (pre ++ t.rfc3339Text mark sep ds ++ post)) = some t) ∧
    (∀ (t : Instant) (sep : Char), t.InRange → (sep = 'T' ∨ sep = ' ') →
      Instant.parse? (String.ofList (pre ++ t.naiveText sep ++ post)) = some t ∧
      (t.secs % 60 = 0 → t.nanos = 0 →
        Instant.parse? (String.ofList (pre ++ t.naiveMinuteText sep ++ post)) = some t)) ∧
    ∀ (sign : Option Bool) (k : Nat),
      Instant.parse? (String.ofList (pre ++ (signText sign ++ (decimal k).toList) ++ post)) =
        if minSecs ≤ signedValue sign k ∧ signedValue sign k ≤ maxSecs then
          some (Instant.ofSecs (signedValue sign k)) else none :=
  ⟨fun t _ _ _ ht hv hsep hds hy => parse?_rfc3339Text pre post hpre hpost t ht hv hsep hds hy,
    fun t _ ht hsep => ⟨parse?_naiveText pre post hpre hpost t ht hsep,
      fun h0 hn => parse?_naiveMinuteText pre post hpre hpost t ht h0 hn hsep⟩,
    parse?_signedDigits pre post hpre hpost⟩

/-- Between an ideographic space and a line feed: a leap second before the epoch written at
offset `-23:59` with a lowercase `t` and twelve fraction digits, the earliest representable
instant in naive text to the minute with a space, and the earliest representable count of
seconds. -/
theorem parse_reads_every_layout_extremes :
    Instant.parse? (String.ofList (['\u3000'] ++
        Instant.rfc3339Text ⟨-1, 1500000000, by decide, fun _ => by decide⟩
          (.hoursMinutes true 23 59) 't'
          ['5', '0', '0', '0', '0', '0', '0', '0', '0', '0', '0', '0'] ++ ['\n'])) =
      some ⟨-1, 1500000000, by decide, fun _ => by decide⟩ ∧
    Instant.parse? (String.ofList (['\u3000'] ++ (Instant.ofSecs minSecs).naiveMinuteText ' ' ++
      ['\n'])) = some (Instant.ofSecs minSecs) ∧
    Instant.parse? (String.ofList (['\u3000'] ++
        (signText (some true) ++ (decimal 8334601228800).toList) ++ ['\n'])) =
      some (Instant.ofSecs minSecs) := by
  have h := parse_reads_every_layout ['\u3000'] ['\n']
    (by simp only [List.mem_singleton, forall_eq]; decide)
    (by simp only [List.mem_singleton, forall_eq]; decide)
  refine ⟨h.1 _ _ _ _ (by decide) (by decide) (by decide) (by decide) (by decide),
    (h.2.1 _ _ (by decide) (by decide)).2 (by decide) (by decide), ?_⟩
  rw [h.2.2]
  decide

end MinuteWindow.Time
