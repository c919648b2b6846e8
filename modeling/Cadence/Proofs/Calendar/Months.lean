import Cadence.Proofs.Calendar.Date

/-!
# Months of readings

A reading lies in one month, whose first midnight comes on or before it. The readings that a
counter can hold lie in some seven thousand months. A reading that is moved back by months comes
to lie that many months earlier, whichever day it keeps.
-/

namespace Cadence

/-- A day lies in the month that has begun by it when the next one has not. -/
theorem Date.monthIndex_eq {k n : Int} (hle : firstOfMonth k ≤ n) (hlt : n < firstOfMonth (k + 1)) :
    (ofDayNumber n).monthIndex = k := by
  have hbegun := firstOfMonth_le_iff.mp hle
  have hnext : ¬k + 1 ≤ (ofDayNumber n).monthIndex := by
    rw [← firstOfMonth_le_iff]
    exact Int.not_le.mpr hlt
  omega

namespace Reading

/-! ### First midnights -/

/-- A month has begun by a reading exactly when it does not come after its month. -/
theorem startOfMonth_le_iff {k : Int} {r : Reading} :
    (startOfMonth k).nanos ≤ r.nanos ↔ k ≤ r.monthIndex := by
  rw [monthIndex, date, ← Date.firstOfMonth_le_iff]
  simp only [startOfMonth, midnight, dayNumber, nanosPerDay]
  omega

theorem startOfMonth_lt_iff {j k : Int} :
    (startOfMonth j).nanos < (startOfMonth k).nanos ↔ j < k := by
  rw [← Date.firstOfMonth_lt_iff (j := j) (k := k)]
  simp only [startOfMonth, midnight, nanosPerDay]
  omega

theorem startOfMonth_mono {j k : Int} (h : j ≤ k) :
    (startOfMonth j).nanos ≤ (startOfMonth k).nanos := by
  rw [← Int.not_lt, startOfMonth_lt_iff]
  exact Int.not_lt.mpr h

/-- No month begins so close to the ends of the counters that a shift by less than a
day would take it past them. -/
theorem fits_startOfMonth {k : Int}
    (hlo : Counter.least - nanosPerDay < (startOfMonth k).nanos)
    (hhi : (startOfMonth k).nanos ≤ Counter.greatest + nanosPerDay) :
    Counter.Fits (startOfMonth k).nanos := by
  have hfirst : monthIndex ⟨Counter.least - nanosPerDay⟩ = monthIndex ⟨Counter.least⟩ := by decide
  have hlast : monthIndex ⟨Counter.greatest + nanosPerDay⟩ = monthIndex ⟨Counter.greatest⟩ := by
    decide
  constructor
  · have hafter : ¬k ≤ monthIndex ⟨Counter.least⟩ := by
      rw [← hfirst, ← startOfMonth_le_iff]
      exact Int.not_le.mpr hlo
    rw [← startOfMonth_le_iff] at hafter
    exact Int.le_of_lt (Int.not_le.mp hafter)
  · have hbefore : k ≤ monthIndex ⟨Counter.greatest⟩ := by
      rw [← hlast, ← startOfMonth_le_iff]
      exact hhi
    exact startOfMonth_le_iff.mpr hbefore

theorem monthIndex_startOfMonth (k : Int) : (startOfMonth k).monthIndex = k := by
  have hday : (startOfMonth k).dayNumber = Date.firstOfMonth k := by
    simp only [startOfMonth, midnight, dayNumber, nanosPerDay]
    omega
  rw [monthIndex, date, hday]
  exact Date.monthIndex_eq (Int.le_refl _) (Date.firstOfMonth_lt_succ k)

/-- A month begins with midnight of its first day. -/
theorem eq_startOfMonth_iff {r : Reading} :
    r = startOfMonth r.monthIndex ↔ r.date.day = 1 ∧ r.nanosOfDay = 0 := by
  have hday := Date.day_ofDayNumber r.dayNumber
  have hnanos : r = startOfMonth r.monthIndex ↔ r.nanos = (startOfMonth r.monthIndex).nanos :=
    ⟨congrArg nanos, fun h => congrArg mk h⟩
  rw [hnanos]
  simp only [date, monthIndex, startOfMonth, midnight, nanosOfDay, dayNumber, nanosPerDay] at *
  omega

/-! ### Months that counters reach -/

theorem monthIndex_mono {r s : Reading} (h : r.nanos ≤ s.nanos) : r.monthIndex ≤ s.monthIndex := by
  rw [← startOfMonth_le_iff]
  exact Int.le_trans (startOfMonth_le_iff.mpr (Int.le_refl _)) h

/-- Counters reach from September 1677 to April 2262. -/
theorem monthIndex_bounds {r : Reading} (h : Counter.Fits r.nanos) :
    -3508 ≤ r.monthIndex ∧ r.monthIndex ≤ 3507 := by
  have hfirst : monthIndex ⟨Counter.least⟩ = -3508 := by decide
  have hlast : monthIndex ⟨Counter.greatest⟩ = 3507 := by decide
  rw [← hfirst, ← hlast]
  exact ⟨monthIndex_mono h.1, monthIndex_mono h.2⟩

/-! ### Months before a reading -/

/-- A day that is kept, or becomes the last one, lies in the month it is moved to. -/
theorem monthIndex_monthsBefore (r : Reading) (months : Int) :
    (r.monthsBefore months).monthIndex = r.monthIndex - months := by
  have hday : (r.monthsBefore months).dayNumber =
      Date.firstOfMonth (r.monthIndex - months) +
        min r.date.day (Date.daysInMonth (r.monthIndex - months)) - 1 := by
    simp only [monthsBefore, midnight, dayNumber, nanosOfDay, nanosPerDay]
    omega
  obtain ⟨hfirst, -⟩ := Date.day_bounds r.dayNumber
  have hnext := Date.firstOfMonth_lt_succ (r.monthIndex - months)
  rw [monthIndex, date, hday]
  unfold Date.daysInMonth
  exact Date.monthIndex_eq (by unfold date; omega) (by omega)

/-- A reading lies in a supported year exactly when its month does. -/
theorem supported_iff_monthIndex {r : Reading} :
    r.Supported ↔ Date.monthIndex ⟨Date.firstYear, 1, 1⟩ ≤ r.monthIndex ∧
      r.monthIndex < Date.monthIndex ⟨Date.lastYear + 1, 1, 1⟩ := by
  have hbegun : ∀ year, Date.dayNumber ⟨year, 1, 1⟩ ≤ r.dayNumber ↔
      Date.monthIndex ⟨year, 1, 1⟩ ≤ r.monthIndex := by
    intro year
    rw [Date.dayNumber_newYear, Date.firstOfMonth_le_iff]
    simp only [Date.monthIndex, monthIndex, date]
    omega
  rw [Supported, Date.Supported, ← Int.not_le, ← Int.not_le, hbegun, hbegun]

/-! ### Order after months are taken -/

variable {r s : Reading} {months : Int}

theorem nanos_eq (r : Reading) : r.nanos = r.dayNumber * nanosPerDay + r.nanosOfDay := by
  simp only [dayNumber, nanosOfDay, nanosPerDay]
  omega

theorem nanosOfDay_bounds (r : Reading) : 0 ≤ r.nanosOfDay ∧ r.nanosOfDay < nanosPerDay := by
  simp only [nanosOfDay, nanosPerDay]
  omega

/-- Two days of one month both become the last day of an earlier one, and the first of the two
readings has the later time of day. -/
structure Clamps (months : Int) (r s : Reading) : Prop where
  monthIndex_eq : r.monthIndex = s.monthIndex
  le_day : Date.daysInMonth (r.monthIndex - months) ≤ r.date.day
  nanosOfDay_lt : s.nanosOfDay < r.nanosOfDay

/-- Readings keep their order when months are taken from them, unless their days are clamped. -/
theorem monthsBefore_lt_iff (h : r.nanos ≤ s.nanos) :
    (s.monthsBefore months).nanos < (r.monthsBefore months).nanos ↔ Clamps months r s := by
  have hmonth := monthIndex_mono h
  by_cases heq : r.monthIndex = s.monthIndex
  · have hr := Date.day_ofDayNumber r.dayNumber
    have hs := Date.day_ofDayNumber s.dayNumber
    have hrday := r.nanosOfDay_bounds
    have hsday := s.nanosOfDay_bounds
    rw [r.nanos_eq, s.nanos_eq] at h
    have hclamps : Clamps months r s ↔
        Date.daysInMonth (r.monthIndex - months) ≤ r.date.day ∧ s.nanosOfDay < r.nanosOfDay :=
      ⟨fun h => ⟨h.le_day, h.nanosOfDay_lt⟩, fun h => ⟨heq, h.1, h.2⟩⟩
    rw [hclamps]
    simp only [monthsBefore, midnight, monthIndex, date, nanosPerDay] at *
    rw [← heq] at hs ⊢
    omega
  · constructor
    · intro hlt
      have hle := monthIndex_mono hlt.le
      rw [monthIndex_monthsBefore, monthIndex_monthsBefore] at hle
      omega
    · exact fun h => absurd h.monthIndex_eq heq

end Reading

end Cadence
