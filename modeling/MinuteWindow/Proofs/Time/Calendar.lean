import Mathlib
import MinuteWindow.Time.Fields
/-! The day-number calendar: `Date.ofDays` inverts `Date.toDays`.

`Date.ofDays` splits a day number into 400-year eras of 146097 days, then finds the year of
the era and the day of that year with divisions that correct for the leap days skipped every
4, 100 and 400 years. Years are counted from March, so the leap day is the last day of its
year. `era_bounds` is the heart of it: for every day of an era, the year found lies in the era
and the day found lies in that year, and only the leap day of a leap year is its 366th day.
Everything else follows from `Date.ofDays_spec`, which names what the algorithm computes.

`Date.toDays_ofDays`: the date of a day number is numbered by that day number again.
`Date.valid_ofDays`: the date of every day number exists: its month is 1 to 12 and its day
lies within that month, February 29 only in a leap year.
`Instant.date_year_mem`: every representable instant falls in a year from `minYear` to
`maxYear`, the years the readers accept. -/
namespace MinuteWindow.Time

/-! ### Eras -/

/-- Inside a 400-year era, the year of a day and its day in that year (years counted from
March 1), for every day but the era's last. -/
theorem era_split (doe : Int) (h0 : 0 ≤ doe) (h1 : doe < 146096) :
    let yoe := (doe - doe / 1460 + doe / 36524 - doe / 146096) / 365
    let doy := doe - (365 * yoe + yoe / 4 - yoe / 100)
    0 ≤ yoe ∧ yoe ≤ 399 ∧ 0 ≤ doy ∧ doy ≤ 365 ∧
      (doy = 365 → (yoe + 1) % 4 = 0 ∧ (yoe + 1) % 100 ≠ 0) := by
  intro yoe doy
  -- the day splits into a century `c`, a four-year cycle `q` of it and a day `dq` of the cycle
  obtain ⟨c, q, dq, hc, hq, hdq, hdoe⟩ : ∃ c q dq : Int, (0 ≤ c ∧ c ≤ 3) ∧
      (0 ≤ q ∧ q ≤ 24) ∧ (0 ≤ dq ∧ dq ≤ 1460 ∧ 1461 * q + dq < 36524) ∧
      doe = 36524 * c + 1461 * q + dq :=
    ⟨doe / 36524, doe % 36524 / 1461, doe % 36524 % 1461, by omega, by omega, by omega,
      by omega⟩
  have hera : doe / 146096 = 0 := by omega
  have hcent : doe / 36524 = c := by omega
  -- `doe / 1460` counts the cycles passed, one more once a century's cycles drift past 1460
  obtain ⟨e, he, hcyc⟩ : ∃ e : Int, (e = 0 ∨ e = 1) ∧ doe / 1460 = 25 * c + q + e :=
    ⟨(24 * c + q + dq) / 1460, by omega, by omega⟩
  have he1 : e = 1 → 1460 ≤ 24 * c + q + dq := by omega
  have he0 : e = 0 → 24 * c + q + dq < 1460 := by omega
  obtain ⟨r, hr, hrdq, hyoe⟩ : ∃ r : Int, (0 ≤ r ∧ r ≤ 3) ∧
      (365 * r ≤ dq - e ∧ dq - e < 365 * r + 365) ∧ yoe = 100 * c + 4 * q + r := by
    refine ⟨(dq - e) / 365, by omega, by omega, ?_⟩
    show (doe - doe / 1460 + doe / 36524 - doe / 146096) / 365 = _
    rw [hera, hcent, hcyc]
    omega
  have h4 : yoe / 4 = 25 * c + q := by omega
  have h100 : yoe / 100 = c := by omega
  have hdoy : doy = dq - 365 * r := by
    show doe - (365 * yoe + yoe / 4 - yoe / 100) = _
    rw [h4, h100, hyoe]
    omega
  refine ⟨by omega, by omega, by omega, by omega, fun h365 => ?_⟩
  -- day 366 of a year is the last day of a four-year cycle
  have hr3 : r = 3 ∧ dq = 1460 := by omega
  omega

/-- The last day of an era is the leap day closing its 400th year. -/
theorem era_last :
    let doe : Int := 146096
    let yoe := (doe - doe / 1460 + doe / 36524 - doe / 146096) / 365
    let doy := doe - (365 * yoe + yoe / 4 - yoe / 100)
    yoe = 399 ∧ doy = 365 := by decide

/-- The year of an era and the day of that year, for every day of the era. -/
theorem era_bounds (doe yoe doy : Int) (h0 : 0 ≤ doe) (h1 : doe ≤ 146096)
    (hyoe : yoe = (doe - doe / 1460 + doe / 36524 - doe / 146096) / 365)
    (hdoy : doy = doe - (365 * yoe + yoe / 4 - yoe / 100)) :
    0 ≤ yoe ∧ yoe ≤ 399 ∧ 0 ≤ doy ∧ doy ≤ 365 ∧
      (doy = 365 → (yoe + 1) % 4 = 0 ∧ ((yoe + 1) % 100 ≠ 0 ∨ (yoe + 1) % 400 = 0)) := by
  subst hyoe hdoy
  rcases Int.lt_or_eq_of_le h1 with hlt | rfl
  · obtain ⟨h1, h2, h3, h4, h5⟩ := era_split doe h0 hlt
    exact ⟨h1, h2, h3, h4, fun h => (h5 h).imp_right Or.inl⟩
  · obtain ⟨hy, hd⟩ := era_last
    refine ⟨by omega, by omega, by omega, by omega, fun _ => ?_⟩
    rw [hy]
    decide

/-! ### What `Date.ofDays` computes -/

/-- The era, the day of the era, the year of the era and the day of that year (both counted
from March 1), and the month counted from March, that `Date.ofDays` finds. -/
theorem Date.ofDays_spec (z : Int) : ∃ era doe yoe doy mp : Int, ∃ month day : Nat,
    z + 719468 = era * 146097 + doe ∧ 0 ≤ doe ∧ doe ≤ 146096 ∧
    0 ≤ yoe ∧ yoe ≤ 399 ∧ doe = 365 * yoe + yoe / 4 - yoe / 100 + doy ∧
    0 ≤ doy ∧ doy ≤ 365 ∧
    (doy = 365 → (yoe + 1) % 4 = 0 ∧ ((yoe + 1) % 100 ≠ 0 ∨ (yoe + 1) % 400 = 0)) ∧
    mp = (5 * doy + 2) / 153 ∧ (month : Int) = (if mp < 10 then mp + 3 else mp - 9) ∧
    (day : Int) = doy - (153 * mp + 2) / 5 + 1 ∧
    Date.ofDays z = ⟨yoe + era * 400 + (if mp < 10 then 0 else 1), month, day⟩ := by
  unfold Date.ofDays
  extract_lets z' era doe yoe doy mp day month
  have hz : z' = z + 719468 := rfl
  have hdoe : doe = z' - z' / 146097 * 146097 := rfl
  have hdoy : doy = doe - (365 * yoe + yoe / 4 - yoe / 100) := rfl
  have hmonth : month = if mp < 10 then mp + 3 else mp - 9 := rfl
  have h0 : 0 ≤ doe := by omega
  have h1 : doe ≤ 146096 := by omega
  obtain ⟨hy0, hy1, hd0, hd1, hleap⟩ := era_bounds doe yoe doy h0 h1 rfl rfl
  have hmp : mp = (5 * doy + 2) / 153 := rfl
  have hmp0 : 0 ≤ mp := by omega
  have hmp1 : mp ≤ 11 := by omega
  refine ⟨era, doe, yoe, doy, mp, month.toNat, day.toNat, by omega, h0, h1, hy0, hy1, by omega,
    hd0, hd1, hleap, hmp, Int.toNat_of_nonneg ?_, Int.toNat_of_nonneg ?_, ?_⟩
  · rw [hmonth]; split_ifs <;> omega
  · show 0 ≤ doy - (153 * mp + 2) / 5 + 1
    omega
  · -- January and February belong to the March-based year before the civil one
    congr 1
    rw [hmonth]
    split_ifs <;> omega

theorem Date.toDays_ofDays (z : Int) : (Date.ofDays z).toDays = z := by
  obtain ⟨era, doe, yoe, doy, mp, month, day, hz, -, -, hy0, hy1, hdoe, hd0, hd1, -, hmp, hmonth,
    hday, hd⟩ := Date.ofDays_spec z
  rw [hd]
  have hmp0 : 0 ≤ mp := by omega
  have hmp1 : mp ≤ 11 := by omega
  -- `toDays` finds the March-based year and the month index `mp` again
  have hyear : (if month ≤ 2 then yoe + era * 400 + (if mp < 10 then 0 else 1) - 1
      else yoe + era * 400 + (if mp < 10 then 0 else 1)) = yoe + era * 400 := by
    split_ifs at hmonth ⊢ <;> omega
  have hmarch : ((month : Int) + 9) % 12 = mp := by split_ifs at hmonth <;> omega
  have hera : (yoe + era * 400) / 400 = era := by omega
  simp only [Date.toDays]
  rw [hyear, hmarch, hera, Int.add_sub_cancel]
  omega

theorem Date.valid_ofDays (z : Int) : (Date.ofDays z).Valid := by
  obtain ⟨era, doe, yoe, doy, mp, month, day, hz, -, -, hy0, hy1, hdoe, hd0, hd1, hleap, hmp,
    hmonth, hday, hd⟩ := Date.ofDays_spec z
  rw [hd]
  -- the month `mp` is the run of days of the year from its first day to the next month's
  have hfirst : (153 * mp + 2) / 5 ≤ doy := by omega
  have hnext : doy < (153 * mp + 155) / 5 := by omega
  have hm : (0 ≤ mp ∧ mp < 10 ∧ (month : Int) = mp + 3) ∨
      (10 ≤ mp ∧ mp ≤ 11 ∧ (month : Int) = mp - 9) := by
    split_ifs at hmonth <;> omega
  clear hmonth hmp
  show 1 ≤ month ∧ month ≤ 12 ∧ 1 ≤ day ∧
    day ≤ daysInMonth (yoe + era * 400 + if mp < 10 then 0 else 1) month
  refine ⟨by omega, by omega, by omega, ?_⟩
  by_cases hfeb : month = 2
  · -- February closes the March-based year: its 29th day is the era's leap day
    subst hfeb
    have hmp11 : mp = 11 := by omega
    simp only [daysInMonth, hmp11, if_neg (by decide : ¬ (11 : Int) < 10)]
    split
    · omega
    · rename_i hcommon
      have hnot : doy ≠ 365 := by
        intro h
        obtain ⟨h4, h100⟩ := hleap h
        apply hcommon
        simp only [isLeapYear, Bool.and_eq_true, Bool.or_eq_true, beq_iff_eq, bne_iff_ne, ne_eq]
        omega
      omega
  · -- every other month has its fixed length of 30 or 31 days
    have hm1 : 1 ≤ month := by omega
    have hm12 : month ≤ 12 := by omega
    interval_cases month <;> simp only [daysInMonth] <;> omega

/-! ### Years of day numbers -/

/-- Days from 0000-03-01 to March 1 of year `y`, in closed form. -/
theorem era_days (y : Int) :
    y / 400 * 146097 + (y - y / 400 * 400) * 365 + (y - y / 400 * 400) / 4 -
      (y - y / 400 * 400) / 100 = 365 * y + y / 4 - y / 100 + y / 400 := by
  omega

theorem leap_days_mono (y y' : Int) (h : y ≤ y') : y / 4 - y / 100 ≤ y' / 4 - y' / 100 := by
  -- a century year is a fourth year, so the centuries passed never outrun the fourth years
  have hc : ∀ x : Int, x / 100 = x / 4 / 25 := fun x => by omega
  rw [hc y, hc y']
  have : y / 4 ≤ y' / 4 := Int.ediv_le_ediv (by decide) h
  omega

theorem year_days_le (y y' : Int) (h : y ≤ y') :
    365 * y + y / 4 - y / 100 + y / 400 ≤ 365 * y' + y' / 4 - y' / 100 + y' / 400 := by
  have h1 := leap_days_mono y y' h
  have h2 : y / 400 ≤ y' / 400 := Int.ediv_le_ediv (by decide) h
  omega

theorem year_days_mono (y y' : Int) (h : y < y') :
    365 * y + y / 4 - y / 100 + y / 400 + 365 ≤ 365 * y' + y' / 4 - y' / 100 + y' / 400 := by
  have h1 := leap_days_mono y y' h.le
  have h2 : y / 400 ≤ y' / 400 := Int.ediv_le_ediv (by decide) h.le
  omega

/-- Day numbers in closed form, from the year counted from March and the day of that year. -/
theorem Date.toDays_eq (d : Date) :
    d.toDays = (let y := if d.month ≤ 2 then d.year - 1 else d.year
      365 * y + y / 4 - y / 100 + y / 400) + (153 * (((d.month : Int) + 9) % 12) + 2) / 5 + d.day
        - 1 - 719468 := by
  unfold Date.toDays
  generalize (if d.month ≤ 2 then d.year - 1 else d.year) = y
  have := era_days y
  dsimp only
  omega

/-- Every valid date of an earlier year comes before January 1. -/
theorem Date.toDays_lt_of_year_lt (d : Date) (hd : d.Valid) (y : Int) (hy : d.year < y) :
    d.toDays < (⟨y, 1, 1⟩ : Date).toDays := by
  obtain ⟨hm1, hm12, -, hday⟩ := hd
  have h31 := daysInMonth_le d.year d.month
  rw [Date.toDays_eq, Date.toDays_eq]
  dsimp only
  rw [if_pos (by decide : (1 : Nat) ≤ 2)]
  split_ifs with hjan
  · have := year_days_mono (d.year - 1) (y - 1) (by omega)
    omega
  · have := year_days_le d.year (y - 1) (by omega)
    omega

/-- Every valid date of a later year comes after December 31. -/
theorem Date.toDays_gt_of_year_gt (d : Date) (hd : d.Valid) (y : Int) (hy : y < d.year) :
    (⟨y, 12, 31⟩ : Date).toDays < d.toDays := by
  obtain ⟨hm1, hm12, hd1, -⟩ := hd
  rw [Date.toDays_eq, Date.toDays_eq]
  dsimp only
  rw [if_neg (by decide : ¬ (12 : Nat) ≤ 2)]
  split_ifs with hjan
  · have := year_days_le y (d.year - 1) (by omega)
    omega
  · have := year_days_mono y d.year hy
    omega

/-! ### Dates of instants -/

namespace Instant

theorem date_toDays (t : Instant) : t.date.toDays = t.secs / 86400 := Date.toDays_ofDays _

theorem date_valid (t : Instant) : t.date.Valid := Date.valid_ofDays _

/-- The first and last representable seconds fall on the first and last days of `minYear` and
`maxYear`, so every instant between them has a year the readers accept. -/
theorem date_year_mem (t : Instant) (ht : t.InRange) :
    minYear ≤ t.date.year ∧ t.date.year ≤ maxYear := by
  obtain ⟨hlo, hhi⟩ := ht
  have hfirst : (⟨minYear, 1, 1⟩ : Date).toDays = minSecs / 86400 := by decide
  have hlast : (⟨maxYear, 12, 31⟩ : Date).toDays = maxSecs / 86400 := by decide
  have hz := date_toDays t
  constructor
  · by_contra hlt
    have := Date.toDays_lt_of_year_lt t.date (date_valid t) minYear (by omega)
    have : minSecs / 86400 ≤ t.secs / 86400 := Int.ediv_le_ediv (by decide) hlo
    omega
  · by_contra hgt
    have := Date.toDays_gt_of_year_gt t.date (date_valid t) maxYear (by omega)
    have : t.secs / 86400 ≤ maxSecs / 86400 := Int.ediv_le_ediv (by decide) hhi
    omega

end Instant

end MinuteWindow.Time
