import Cadence.Calendar.Reading
import Mathlib.Order.Monotone.Basic

/-!
# Months and years on the day line

The first days of the months follow one another without a gap, and the date of a
day names the month whose stretch holds it. Years and the bounds of all calendar
fields follow from the months.
-/

namespace Cadence

namespace Date

/-! ### Years that begin in March -/

/-- A year has 365 or 366 days. -/
theorem marchStart_step (y : Int) :
    marchStart y + 365 ≤ marchStart (y + 1) ∧ marchStart (y + 1) ≤ marchStart y + 366 := by
  unfold marchStart
  omega

/-- The mean length of a year misses the year of a day by at most one. -/
theorem marchYear_spec (z : Int) :
    marchStart (marchYear z) ≤ z ∧ z < marchStart (marchYear z + 1) := by
  unfold marchYear
  simp only
  split
  · unfold marchStart at *
    omega
  · split
    · unfold marchStart at *
      omega
    · unfold marchStart at *
      omega

/-- The month that the formula names begins on or before the day, and the next one after it. -/
theorem monthStart_spec {d : Int} (h0 : 0 ≤ d) (h1 : d < 366) :
    0 ≤ (5 * d + 2) / 153 ∧ (5 * d + 2) / 153 ≤ 11 ∧
      monthStart ((5 * d + 2) / 153) ≤ d ∧ d < monthStart ((5 * d + 2) / 153 + 1) := by
  unfold monthStart
  omega

/-! ### First days of months -/

/-- The first day of a month, counted within the year that begins in March. -/
theorem firstOfMonth_eq (k : Int) :
    firstOfMonth k =
      marchStart (1970 + (k - 2) / 12) + monthStart ((k - 2) % 12) - epochShift := by
  simp only [firstOfMonth, dayNumber]
  split
  · have hy : 1970 + k / 12 - 1 = 1970 + (k - 2) / 12 := by omega
    have hm : k % 12 + 1 + 9 = (k - 2) % 12 := by omega
    rw [hy, hm]
    omega
  · have hy : 1970 + k / 12 = 1970 + (k - 2) / 12 := by omega
    have hm : k % 12 + 1 - 3 = (k - 2) % 12 := by omega
    rw [hy, hm]
    omega

theorem firstOfMonth_lt_succ (k : Int) : firstOfMonth k < firstOfMonth (k + 1) := by
  rw [firstOfMonth_eq, firstOfMonth_eq]
  have hstep := marchStart_step (1970 + (k - 2) / 12)
  by_cases h : (k - 2) % 12 = 11
  · have hy : 1970 + (k + 1 - 2) / 12 = 1970 + (k - 2) / 12 + 1 := by omega
    have hm : (k + 1 - 2) % 12 = 0 := by omega
    rw [hy, hm, h]
    unfold monthStart
    omega
  · have hy : (k + 1 - 2) / 12 = (k - 2) / 12 := by omega
    have hm : (k + 1 - 2) % 12 = (k - 2) % 12 + 1 := by omega
    rw [hy, hm]
    unfold monthStart
    omega

theorem firstOfMonth_lt_iff {j k : Int} : firstOfMonth j < firstOfMonth k ↔ j < k :=
  (strictMono_int_of_lt_succ firstOfMonth_lt_succ).lt_iff_lt

/-- The first day of a month, from the year that begins in March and the months since then. -/
theorem firstOfMonth_march {y m : Int} (h0 : 0 ≤ m) (h1 : m ≤ 11) :
    firstOfMonth ((y - 1970) * 12 + m + 2) = marchStart y + monthStart m - epochShift := by
  have hyear : 1970 + ((y - 1970) * 12 + m + 2 - 2) / 12 = y := by omega
  have hmonth : ((y - 1970) * 12 + m + 2 - 2) % 12 = m := by omega
  rw [firstOfMonth_eq, hyear, hmonth]

theorem monthIndex_ofDayNumber (n : Int) :
    (ofDayNumber n).monthIndex =
      (marchYear (n + epochShift) - 1970) * 12 +
        (5 * (n + epochShift - marchStart (marchYear (n + epochShift))) + 2) / 153 + 2 := by
  simp only [ofDayNumber, monthIndex]
  split <;> omega

/-- A day lies in the month that its date names. -/
theorem firstOfMonth_monthIndex (n : Int) :
    firstOfMonth (ofDayNumber n).monthIndex ≤ n ∧
      n < firstOfMonth ((ofDayNumber n).monthIndex + 1) := by
  obtain ⟨hlo, hhi⟩ := marchYear_spec (n + epochShift)
  have hstep := marchStart_step (marchYear (n + epochShift))
  rw [monthIndex_ofDayNumber]
  generalize marchYear (n + epochShift) = y at *
  obtain ⟨hm0, hm1, hle, hlt⟩ :=
    monthStart_spec (d := n + epochShift - marchStart y) (by omega) (by omega)
  generalize (5 * (n + epochShift - marchStart y) + 2) / 153 = m at *
  constructor
  · rw [firstOfMonth_march hm0 hm1]
    omega
  · by_cases hlast : m = 11
    · have hnext : (y - 1970) * 12 + m + 2 + 1 = (y + 1 - 1970) * 12 + 0 + 2 := by omega
      have hzero : monthStart 0 = 0 := rfl
      rw [hnext, firstOfMonth_march (by omega) (by omega)]
      omega
    · have hnext : (y - 1970) * 12 + m + 2 + 1 = (y - 1970) * 12 + (m + 1) + 2 := by omega
      rw [hnext, firstOfMonth_march (by omega) (by omega)]
      omega

/-- A month has begun by a day exactly when it does not come after the month of that day. -/
theorem firstOfMonth_le_iff {k n : Int} :
    firstOfMonth k ≤ n ↔ k ≤ (ofDayNumber n).monthIndex := by
  obtain ⟨hle, hlt⟩ := firstOfMonth_monthIndex n
  constructor
  · intro h
    have := firstOfMonth_lt_iff.mp (Int.lt_of_le_of_lt h hlt)
    omega
  · intro h
    have hmonth : ¬firstOfMonth (ofDayNumber n).monthIndex < firstOfMonth k := by
      rw [firstOfMonth_lt_iff]
      omega
    omega

/-- The days of a month are counted from its first day. -/
theorem day_ofDayNumber (n : Int) :
    (ofDayNumber n).day = n - firstOfMonth (ofDayNumber n).monthIndex + 1 := by
  obtain ⟨hlo, hhi⟩ := marchYear_spec (n + epochShift)
  have hstep := marchStart_step (marchYear (n + epochShift))
  obtain ⟨hm0, hm1, -⟩ :=
    monthStart_spec (d := n + epochShift - marchStart (marchYear (n + epochShift)))
      (by omega) (by omega)
  rw [monthIndex_ofDayNumber, firstOfMonth_march hm0 hm1]
  simp only [ofDayNumber]
  omega

/-! ### Bounds of calendar fields -/

theorem month_bounds (n : Int) :
    1 ≤ (ofDayNumber n).month ∧ (ofDayNumber n).month ≤ 12 := by
  obtain ⟨hlo, hhi⟩ := marchYear_spec (n + epochShift)
  have hstep := marchStart_step (marchYear (n + epochShift))
  simp only [ofDayNumber]
  split <;> omega

theorem day_bounds (n : Int) : 1 ≤ (ofDayNumber n).day ∧ (ofDayNumber n).day ≤ 31 := by
  obtain ⟨hlo, hhi⟩ := marchYear_spec (n + epochShift)
  have hstep := marchStart_step (marchYear (n + epochShift))
  simp only [ofDayNumber]
  unfold monthStart
  omega

/-- The first of January is the first day of its year. -/
theorem dayNumber_newYear (y : Int) : dayNumber ⟨y, 1, 1⟩ = firstOfMonth ((y - 1970) * 12) := by
  have hy : 1970 + (y - 1970) * 12 / 12 = y := by omega
  have hm : (y - 1970) * 12 % 12 + 1 = 1 := by omega
  rw [firstOfMonth, hy, hm]

/-- A year has begun by a day exactly when it does not come after the year of that day. -/
theorem newYear_le_iff {y n : Int} : dayNumber ⟨y, 1, 1⟩ ≤ n ↔ y ≤ (ofDayNumber n).year := by
  have hmonth := month_bounds n
  rw [dayNumber_newYear, firstOfMonth_le_iff, monthIndex]
  omega

theorem newYear_step (y : Int) : dayNumber ⟨y + 1, 1, 1⟩ ≤ dayNumber ⟨y, 1, 1⟩ + 366 := by
  have hstep := marchStart_step (y - 1)
  have hy : y - 1 + 1 = y + 1 - 1 := by omega
  rw [hy] at hstep
  simp only [dayNumber]
  split <;> omega

/-- A year has at most 53 weeks. -/
theorem isoWeek_le (n : Int) : isoWeek n ≤ 53 := by
  simp only [isoWeek]
  generalize n - weekday n + 3 = thursday
  have hlt : ¬dayNumber ⟨(ofDayNumber thursday).year + 1, 1, 1⟩ ≤ thursday := by
    rw [newYear_le_iff]
    omega
  have hstep := newYear_step (ofDayNumber thursday).year
  omega

theorem year_bounds {n : Int} (h : Supported n) :
    firstYear ≤ (ofDayNumber n).year ∧ (ofDayNumber n).year ≤ lastYear := by
  obtain ⟨hlo, hhi⟩ := h
  have hlast : ¬lastYear + 1 ≤ (ofDayNumber n).year := by
    rw [← newYear_le_iff]
    omega
  exact ⟨newYear_le_iff.mp hlo, by omega⟩

end Date

end Cadence
