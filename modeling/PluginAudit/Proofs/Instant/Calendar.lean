import Mathlib.Tactic.Common
import Mathlib.Tactic.IntervalCases
import PluginAudit.Instant.Calendar

/-!
# Days and dates

Every day number is that of the date that is made of it (`toDays_ofDays`), and
that date exists (`isValid_ofDays`). Both follow from what the parts of the date
are: an era, a year of the era, a month counted from March, and a day
(`ofDays_parts`). The year is found by a division that is not exact; it is
pinned down by the days on which it starts and ends (`yearOfEra_bounds`).
-/

set_option autoImplicit false

namespace PluginAudit.Instant.Date

/-- The year of an era to which a day of the era belongs, by its bounds: the year has started on
that day and the next one has not. Only the last year of an era has no next one. -/
theorem yearOfEra_bounds {dayOfEra year : Int} (low : 0 ≤ dayOfEra) (high : dayOfEra < 146097)
    (isYear : year =
      (dayOfEra - dayOfEra / 1460 + dayOfEra / 36524 - dayOfEra / 146096) / 365) :
    0 ≤ year ∧ year ≤ 399 ∧ 365 * year + year / 4 - year / 100 ≤ dayOfEra ∧
      (year = 399 ∨ dayOfEra < 365 * (year + 1) + (year + 1) / 4 - (year + 1) / 100) := by
  have bounds : 0 ≤ year ∧ year ≤ 399 := by omega
  have last : dayOfEra / 146096 = 0 ∨ dayOfEra / 146096 = 1 := by omega
  have fewer : dayOfEra / 36524 - dayOfEra / 146096 ≤ dayOfEra / 1460 := by omega
  have century : year / 100 = dayOfEra / 36524 - dayOfEra / 146096 := by
    have centuries : dayOfEra / 36524 = 0 ∨ dayOfEra / 36524 = 1 ∨ dayOfEra / 36524 = 2 ∨
        dayOfEra / 36524 = 3 ∨ dayOfEra / 36524 = 4 := by omega
    rcases centuries with is | is | is | is | is <;> rw [is] at isYear ⊢ <;> omega
  have leapDays : year / 4 ≤ dayOfEra / 1460 := by
    have started : 365 * year ≤ dayOfEra := by omega
    omega
  refine ⟨bounds.1, bounds.2, by omega, ?_⟩
  by_cases isLast : year = 399
  · exact .inl isLast
  · right
    by_cases within : (year + 1) / 100 = year / 100
    · have nextLeapDays : dayOfEra / 1460 ≤ (year + 1) / 4 := by omega
      omega
    · have turn : year + 1 = 100 * (year / 100 + 1) := by omega
      omega

/-- A date is made of an era, a year of the era, a month of that year and a day. The year has 366
days only if its last month, a February, is in a leap year. -/
theorem ofDays_parts (days : Int) : ∃ era year month day : Int,
    (0 ≤ year ∧ year ≤ 399) ∧ (0 ≤ month ∧ month ≤ 11) ∧ 1 ≤ day ∧
      (day ≤ daysBeforeMonth (month + 1) - daysBeforeMonth month ∧
        daysBeforeMonth month + day ≤ 366 ∧
        (daysBeforeMonth month + day = 366 →
          year = 399 ∨ (year + 1) % 4 = 0 ∧ (year + 1) % 100 ≠ 0)) ∧
      days = era * 146097 + (year * 365 + year / 4 - year / 100 +
        (daysBeforeMonth month + day - 1)) - 719468 ∧
      ofDays days = if month < 10 then ⟨year + era * 400, (month + 3).toNat, day.toNat⟩
        else ⟨year + era * 400 + 1, (month - 9).toNat, day.toNat⟩ := by
  have low : 0 ≤ (days + 719468) % 146097 := Int.emod_nonneg _ (by decide)
  have high : (days + 719468) % 146097 < 146097 := Int.emod_lt_of_pos _ (by decide)
  have split := Int.mul_ediv_add_emod (days + 719468) 146097
  unfold ofDays
  dsimp only
  generalize (days + 719468) / 146097 = era at *
  generalize (days + 719468) % 146097 = dayOfEra at *
  obtain ⟨first, last, started, ended⟩ := yearOfEra_bounds low high rfl
  generalize (dayOfEra - dayOfEra / 1460 + dayOfEra / 36524 - dayOfEra / 146096) / 365 = year at *
  generalize isDay : dayOfEra - (365 * year + year / 4 - year / 100) = dayOfYear
  have bounds : 0 ≤ dayOfYear ∧ dayOfYear ≤ 365 := by omega
  have quarter : (year + 1) / 4 = year / 4 ∨
      (year + 1) % 4 = 0 ∧ (year + 1) / 4 = year / 4 + 1 := by omega
  have century : (year + 1) % 100 ≠ 0 ∧ (year + 1) / 100 = year / 100 ∨
      (year + 1) / 100 = year / 100 + 1 := by omega
  have leap : dayOfYear = 365 → year = 399 ∨ (year + 1) % 4 = 0 ∧ (year + 1) % 100 ≠ 0 := by omega
  unfold daysBeforeMonth
  refine ⟨era, year, (5 * dayOfYear + 2) / 153,
    dayOfYear - (153 * ((5 * dayOfYear + 2) / 153) + 2) / 5 + 1,
    ⟨first, last⟩, by omega, by omega, by omega, by omega, ?_⟩
  by_cases early : (5 * dayOfYear + 2) / 153 < 10
  · have late : ¬ (5 * dayOfYear + 2) / 153 + 3 ≤ 2 := by omega
    simp only [if_pos early, if_neg late]
  · have late : (5 * dayOfYear + 2) / 153 - 9 ≤ 2 := by omega
    simp only [if_neg early, if_pos late]

/-- **The date of a day number has that day number.** -/
theorem toDays_ofDays (days : Int) : (ofDays days).toDays = days := by
  obtain ⟨era, year, month, day, isYear, isMonth, isDay, -, same, written⟩ := ofDays_parts days
  rw [written]
  have eras : (year + era * 400) / 400 = era := by omega
  have years : (year + era * 400) % 400 = year := by omega
  have days : (day.toNat : Int) = day := by omega
  by_cases early : month < 10
  · have late : ¬ (month + 3).toNat ≤ 2 := by omega
    have months : ((month + 3).toNat : Int) - 3 = month := by omega
    rw [if_pos early, toDays]
    simp only [if_neg late, months, days, eras, years]
    exact same.symm
  · have late : (month - 9).toNat ≤ 2 := by omega
    have months : ((month - 9).toNat : Int) + 9 = month := by omega
    rw [if_neg early, toDays]
    simp only [if_pos late, months, days, Int.add_sub_cancel, eras, years]
    exact same.symm

theorem monthLength_le (year : Int) (month : Nat) : monthLength year month ≤ 31 := by
  unfold monthLength
  split
  · split <;> decide
  · split <;> decide

/-- **The date of a day number exists.** -/
theorem isValid_ofDays (days : Int) : (ofDays days).isValid = true := by
  obtain ⟨era, year, month, day, isYear, ⟨least, most⟩, isDay, ⟨short, ends, leap⟩, -, written⟩ :=
    ofDays_parts days
  rw [written]
  unfold daysBeforeMonth at short ends leap
  by_cases early : month < 10
  · rw [if_pos early]
    interval_cases month <;> simp [isValid, monthLength] <;> omega
  · rw [if_neg early]
    obtain rfl | rfl : month = 10 ∨ month = 11 := by omega
    · simp [isValid, monthLength]
      omega
    · -- Of all months only this February ends in a leap day or without one.
      have february : day.toNat ≤ monthLength (year + era * 400 + 1) 2 := by
        rw [monthLength, if_pos (by decide)]
        by_cases leapDay : day = 29
        · have isLeap : isLeapYear (year + era * 400 + 1) = true := by
            have divides := leap (by omega)
            simp only [isLeapYear, Bool.and_eq_true, Bool.or_eq_true, beq_iff_eq, bne_iff_ne]
            omega
          rw [if_pos isLeap]
          omega
        · split <;> omega
      have month : (11 - 9 : Int).toNat = 2 := rfl
      simp only [isValid, month, Bool.and_eq_true, decide_eq_true_eq]
      exact ⟨⟨by decide, by omega⟩, february⟩

end PluginAudit.Instant.Date
