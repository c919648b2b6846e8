import Cadence.Duration.Parser
import Cadence.Proofs.Window.Computation
import Cadence.Proofs.Window.Failure

/-!
# Windows and the range of counters

Nearly every step towards a window asks whether a counter can hold its result, and refuses the
window otherwise. Stepping back from a reading to the start of its cell does not ask. This step
leaves the range exactly when the cell begins before the least counter. The steps that count
months do not ask either; they count so few months, or cells so long, that they have no need to.
-/

namespace Cadence

namespace Period

variable {p : Period} {closed : Closed} {zone : Zone} {t count span origin : Int}
  {b c : Bounds} {r : Reading}

/-! ### The start of a cell -/

/-- Cells of one length alone start out of range, where the last one to begin by the reading
begins before the least counter. -/
theorem startsOutside_iff (hp : p.Regular) (hr : Counter.Fits r.nanos) :
    p.StartsOutside r.nanos ↔
      (∀ n, p ≠ months n) ∧ ∃ c, p.IsCell .left r c ∧ c.lower < Counter.least := by
  rcases p.isClock_or_months with ⟨span, origin, hclock⟩ | ⟨count, rfl⟩
  · have hnot : ∀ n, p ≠ months n := by
      rintro n rfl
      nomatch hclock
    rw [hclock.startsOutside_iff, and_iff_right hnot]
    have hrest := Int.emod_nonneg (r.nanos - origin) (hclock.pos hp).ne'
    have hlt := Int.emod_lt_of_pos (r.nanos - origin) (hclock.pos hp)
    have hdvd := dvd_start span origin r.nanos
    generalize (r.nanos - origin) % span = rest at *
    have hcell : p.IsCell .left r ⟨r.nanos - rest, r.nanos - rest + span⟩ :=
      isCell_of_dvd hclock hdvd rfl ⟨by dsimp only; omega, by dsimp only; omega⟩
    constructor
    · intro houtside
      refine ⟨_, hcell, ?_⟩
      by_contra hinside
      exact houtside ⟨Int.not_lt.mp hinside, by have := hr.2; omega⟩
    · rintro ⟨c, hc, hearly⟩ hinside
      cases hc.unique hcell
      exact absurd hinside.1 (Int.not_le.mpr hearly)
  · exact ⟨False.elim, fun h => h.1 count rfl⟩

/-- A cell that starts out of range is not so far from the origin that its distance is out of
range already. -/
theorem IsClock.fits_distance {reading : Int} (h : p.IsClock span origin) (hp : p.Regular)
    (hlength : p.Measured) (hreading : Counter.Fits reading)
    (hstart : ¬Counter.Fits (reading - (reading - origin) % span)) :
    Counter.Fits (reading - origin) := by
  have hrest := Int.emod_nonneg (reading - origin) (h.pos hp).ne'
  have hlt := Int.emod_lt_of_pos (reading - origin) (h.pos hp)
  have hspan := h.fits hlength
  cases h with
  | fixed | days => rwa [Int.sub_zero]
  | weeks =>
      by_contra hfar
      simp only [Counter.Fits, Counter.least, Counter.greatest, mondayOrigin] at *
      omega

theorem clockWindow_eq_overflow (hreading : Counter.Fits (zone.reading t).nanos)
    (hdistance : Counter.Fits ((zone.reading t).nanos - origin))
    (hstart : ¬Counter.Fits ((zone.reading t).nanos - ((zone.reading t).nanos - origin) % span)) :
    clockWindow span origin closed zone t = .error .overflow := by
  have hcell : clockCell span origin closed (zone.reading t).nanos = .error .overflow := by
    apply bind_eq_error_iff.mpr (.inr ⟨_, require_of_fits hdistance, _⟩)
    exact bind_eq_error_iff.mpr (.inl (Counter.require_eq_error_iff.mpr ⟨hstart, rfl⟩))
  apply bind_eq_error_iff.mpr (.inr ⟨_, require_of_fits hreading, _⟩)
  exact bind_eq_error_iff.mpr (.inl hcell)

/-- An instant whose reading no counter can hold is refused first of all. -/
theorem windowOf_eq_error_of_not_fits (h : ¬Counter.Fits (zone.reading t).nanos) :
    p.windowOf closed zone t = .error (.data (.readingRange (zone.reading t))) := by
  have hcounter : zone.counterAt t = .error (.data (.readingRange (zone.reading t))) :=
    Counter.require_eq_error_iff.mpr ⟨h, rfl⟩
  cases p <;> exact bind_eq_error_iff.mpr (.inl hcounter)

theorem windowOf_eq_overflow_iff (hp : p.Regular) (hlength : p.Measured) :
    p.windowOf closed zone t = .error .overflow ↔
      Counter.Fits (zone.reading t).nanos ∧ p.StartsOutside (zone.reading t).nanos := by
  constructor
  · intro h
    refine ⟨?_, ?_⟩
    · by_contra hreading
      cases h.symm.trans (windowOf_eq_error_of_not_fits hreading)
    · rcases failsOnly_windowOf p closed zone t _ h with hdata | ⟨-, hstart⟩
      · cases hdata
      · exact hstart
  · rintro ⟨hreading, hstart⟩
    rcases p.isClock_or_months with ⟨span, origin, hclock⟩ | ⟨count, rfl⟩
    · rw [hclock.startsOutside_iff] at hstart
      rw [hclock.windowOf_eq]
      exact clockWindow_eq_overflow hreading (hclock.fits_distance hp hlength hreading hstart)
        hstart
    · exact hstart.elim

/-! ### Counting months -/

/-- Months since January 1970, with every step held to the range of a counter. -/
def countedMonth (r : Reading) : Except Error Int := do
  let years ← Counter.require .overflow (r.date.year - 1970)
  let months ← Counter.require .overflow (years * 12)
  Counter.require .overflow (months + (r.date.month - 1))

/-- Midnight at the start of a month, likewise. -/
def countedStart (index : Int) : Except Error Reading := do
  let _ ← Counter.require .overflow (1970 + index / 12)
  startOfMonth index

/-- The first month of the cell around a reading, likewise. -/
def countedCell (count : Int) (closed : Closed) (r : Reading) : Except Error Int := do
  let index ← countedMonth r
  let first ← Counter.require .overflow (index - index % count)
  if closed = .right ∧ first = index then
    let start ← countedStart first
    if start = r then Counter.require .overflow (first - count) else return first
  else return first

/-- The window of an instant among cells of months, likewise. -/
def countedMonthWindow (count : Int) (closed : Closed) (zone : Zone) (t : Int) :
    Except Error Bounds := do
  let reading ← zone.counterAt t
  let first ← countedCell count closed ⟨reading⟩
  let start ← countedStart first
  let lower ← zone.instantOf start
  let next ← Counter.require .overflow (first + count)
  let stop ← countedStart next
  let upper ← zone.instantOf stop
  return ⟨lower, upper⟩

/-- The month that a cell of a grid of months starts at is near, or is that of January 1970 or of
one cell before it. -/
theorem start_cases {index : Int} (hcount : 0 < count) (hlo : -3508 ≤ index)
    (hhi : index ≤ 3508) :
    (count ≤ 3508 ∧ -7016 ≤ index - index % count ∧ index - index % count ≤ 3508) ∨
      index - index % count = 0 ∨ index - index % count = -count := by
  have hrest := Int.emod_nonneg index hcount.ne'
  have hlt := Int.emod_lt_of_pos index hcount
  by_cases hnear : count ≤ 3508
  · omega
  · right
    by_cases hindex : 0 ≤ index
    · rw [Int.emod_eq_of_lt hindex (by omega)]
      omega
    · rw [← Int.add_emod_right, Int.emod_eq_of_lt (by omega) (by omega)]
      omega

theorem countedMonth_eq (hr : Counter.Fits r.nanos) : countedMonth r = .ok r.monthIndex := by
  obtain ⟨hlo, hhi⟩ := Reading.monthIndex_bounds hr
  obtain ⟨hfirst, hlast⟩ : 1 ≤ r.date.month ∧ r.date.month ≤ 12 := Date.month_bounds r.dayNumber
  have hindex : r.monthIndex = (r.date.year - 1970) * 12 + (r.date.month - 1) := rfl
  rw [hindex] at hlo hhi
  unfold countedMonth
  rw [require_of_fits ⟨by unfold Counter.least; omega, by unfold Counter.greatest; omega⟩, ok_bind,
    require_of_fits ⟨by unfold Counter.least; omega, by unfold Counter.greatest; omega⟩, ok_bind,
    require_of_fits ⟨by unfold Counter.least; omega, by unfold Counter.greatest; omega⟩, hindex]

theorem countedStart_eq {index : Int} (h : Counter.Fits index) :
    countedStart index = startOfMonth index := by
  simp only [Counter.Fits, Counter.least, Counter.greatest] at h
  unfold countedStart
  rw [require_of_fits ⟨by unfold Counter.least; omega, by unfold Counter.greatest; omega⟩, ok_bind]

/-- The month of a reading begins in a supported year. -/
theorem startOfMonth_monthIndex (hr : Counter.Fits r.nanos) :
    startOfMonth r.monthIndex = .ok (Reading.startOfMonth r.monthIndex) := by
  have hsupported : (Reading.startOfMonth r.monthIndex).Supported := by
    obtain ⟨hlo, hhi⟩ := Reading.monthIndex_bounds hr
    rw [Reading.supported_iff_monthIndex, Reading.monthIndex_startOfMonth]
    simp only [Date.monthIndex, Date.firstYear, Date.lastYear]
    omega
  unfold startOfMonth
  dsimp only
  rw [if_pos hsupported]

section Months

variable (hcount : 0 < count) (hlength : Counter.Fits count) (hr : Counter.Fits r.nanos)
include hcount hlength hr

/-- Counters can hold the first months of a cell and of the next one. -/
theorem fits_monthCell (closed : Closed) :
    Counter.Fits (monthCell count closed r) ∧ Counter.Fits (monthCell count closed r + count) := by
  obtain ⟨hlo, hhi⟩ := Reading.monthIndex_bounds hr
  have hstart := start_cases hcount hlo (by omega)
  have hat : Reading.startOfMonth (r.monthIndex - r.monthIndex % count) = r →
      r.monthIndex - r.monthIndex % count = r.monthIndex := by
    intro hat
    rw [← Reading.monthIndex_startOfMonth (r.monthIndex - r.monthIndex % count), hat]
  unfold monthCell
  dsimp only
  split
  · next hright =>
      have hindex := hat hright.2
      simp only [Counter.Fits, Counter.least, Counter.greatest] at *
      omega
  · simp only [Counter.Fits, Counter.least, Counter.greatest] at *
    omega

theorem countedCell_eq (closed : Closed) :
    countedCell count closed r = .ok (monthCell count closed r) := by
  obtain ⟨hlo, hhi⟩ := Reading.monthIndex_bounds hr
  have hstart := start_cases hcount hlo (by omega)
  have hfits : Counter.Fits (r.monthIndex - r.monthIndex % count) := by
    simp only [Counter.Fits, Counter.least, Counter.greatest] at *
    omega
  have hcell := fits_monthCell hcount hlength hr closed
  unfold countedCell
  rw [countedMonth_eq hr, ok_bind, require_of_fits hfits, ok_bind]
  unfold monthCell at hcell ⊢
  dsimp only at hcell ⊢
  by_cases hat : closed = .right ∧ r.monthIndex - r.monthIndex % count = r.monthIndex
  · rw [if_pos hat, countedStart_eq hfits, hat.2, startOfMonth_monthIndex hr, ok_bind]
    rw [hat.2] at hcell
    by_cases hbegin : Reading.startOfMonth r.monthIndex = r
    · rw [if_pos ⟨hat.1, hbegin⟩] at hcell
      rw [if_pos hbegin, if_pos ⟨hat.1, hbegin⟩, require_of_fits hcell.1]
    · rw [if_neg hbegin, if_neg fun h => hbegin h.2]
      rfl
  · rw [if_neg hat, if_neg]
    · rfl
    · rintro ⟨hright, hbegin⟩
      apply hat
      refine ⟨hright, ?_⟩
      rw [← Reading.monthIndex_startOfMonth (r.monthIndex - r.monthIndex % count), hbegin]

end Months

/-- No step that counts months leaves the range of a counter. -/
theorem countedMonthWindow_eq (hcount : 0 < count) (hlength : Counter.Fits count)
    (closed : Closed) (zone : Zone) (t : Int) :
    countedMonthWindow count closed zone t = monthWindow count closed zone t := by
  apply bind_congr_of_ok
  intro reading hreading
  obtain ⟨hfits, rfl⟩ := Counter.require_eq_ok_iff.mp hreading
  obtain ⟨hfirst, hnext⟩ := fits_monthCell hcount hlength hfits closed
  rw [countedCell_eq hcount hlength hfits, ok_bind, countedStart_eq hfirst]
  apply bind_congr_of_ok
  intro start _
  apply bind_congr_of_ok
  intro lower _
  rw [require_of_fits hnext, ok_bind, countedStart_eq hnext]

/-! ### Outcomes -/

/-- Counters can hold the number of months of an accepted period. -/
theorem fits_months_of_ofDuration {every : Duration} (h : ofDuration every = .ok (months count)) :
    Counter.Fits count := by
  obtain ⟨x, hspan, hcounts⟩ := exists_counts_of_ofDuration h
  cases hcounts with
  | months => exact Duration.span_fits hspan .months

/-- A window has two ends that counters can hold, or it is refused for the data, or its
computation leaves the range of a counter. The last happens exactly when a counter can hold the
reading, cells are not counted in months, and the cell that the reading begins or lies in begins
before the least counter. Counting months with every step held to the range changes nothing. -/
theorem windowOf_outcome {every : Duration} (hperiod : ofDuration every = .ok p)
    (closed : Closed) (zone : Zone) (t : Int) :
    (∀ b, p.windowOf closed zone t = .ok b → b.Fits) ∧
    (∀ e, p.windowOf closed zone t = .error e → e.kind = .dataFormat ∨ e = .overflow) ∧
    (p.windowOf closed zone t = .error .overflow ↔
      Counter.Fits (zone.reading t).nanos ∧ (∀ n, p ≠ months n) ∧
        ∃ c, p.IsCell .left (zone.reading t) c ∧ c.lower < Counter.least) ∧
    ∀ count, p = months count →
      countedMonthWindow count closed zone t = p.windowOf closed zone t := by
  have hp := regular_of_ofDuration hperiod
  refine ⟨?_, ?_, ?_, ?_⟩
  · intro b hb
    obtain ⟨c, -, hlower, hupper⟩ := windowOf_spec hp hb
    exact ⟨Zone.fits_of_instantOf hlower, Zone.fits_of_instantOf hupper⟩
  · intro e he
    exact (failsOnly_windowOf p closed zone t e he).imp_right And.left
  · rw [windowOf_eq_overflow_iff hp (measured_of_ofDuration hperiod)]
    exact and_congr_right fun hreading => startsOutside_iff hp hreading
  · rintro count rfl
    exact countedMonthWindow_eq hp (fits_months_of_ofDuration hperiod) closed zone t

/-- The week of the least counter begins before it. Cells of as many months as a counter can
hold begin within the counters, and are refused for their years. -/
theorem windowOf_outcome_least :
    ofDuration ⟨[⟨1, .w, by decide⟩]⟩ = .ok (weeks 604800000000000) ∧
      (∃ c, (weeks 604800000000000).IsCell .left ((Zone.fixed 0).reading Counter.least) c ∧
        c.lower < Counter.least) ∧
      ofDuration ⟨[⟨9223372036854775807, .mo, by decide⟩]⟩ = .ok (months 9223372036854775807) ∧
      countedMonthWindow 9223372036854775807 .right (.fixed 0) (-1) = .error boundaryFault := by
  have hweeks : ofDuration ⟨[⟨1, .w, by decide⟩]⟩ = .ok (weeks 604800000000000) := by rfl
  have hmonths : ofDuration ⟨[⟨9223372036854775807, .mo, by decide⟩]⟩ =
      .ok (months 9223372036854775807) := by rfl
  have hoverflow : (weeks 604800000000000).windowOf .right (.fixed 0) Counter.least =
      .error .overflow := by decide +kernel
  have hrefused : (months 9223372036854775807).windowOf .right (.fixed 0) (-1) =
      .error boundaryFault := by decide +kernel
  obtain ⟨-, -, hiff, -⟩ := windowOf_outcome hweeks .right (.fixed 0) Counter.least
  obtain ⟨-, -, -, hcounted⟩ := windowOf_outcome hmonths .right (.fixed 0) (-1)
  exact ⟨hweeks, (hiff.mp hoverflow).2.2, hmonths, (hcounted _ rfl).trans hrefused⟩

/-- The day of the least counter has begun before it, and its window is not refused. -/
theorem windowOf_least_day :
    ∃ zone every p, Zone.ofLabel? none = some zone ∧ Duration.parse "1d" = .ok every ∧
      ofDuration every = .ok p ∧ Counter.Fits Counter.least ∧
      p.windowOf .left zone Counter.least = .error .overflow ∧
      Error.overflow.kind ≠ .dataFormat := by
  have hoverflow : (days 86400000000000).windowOf .left (.fixed 0) Counter.least =
      .error .overflow := by decide +kernel
  exact ⟨.fixed 0, ⟨[⟨1, .d, by decide⟩]⟩, days 86400000000000, rfl, by decide +kernel, by rfl,
    by decide, hoverflow, by decide⟩

end Period

end Cadence
