import Cadence.Proofs.Calendar.Months
import Cadence.Proofs.Duration.Span
import Cadence.Proofs.Window.Counters
import Cadence.Window.Spec

/-!
# Offsets and the range of counters

Moving an instant back on the calendar takes months, then weeks and days, then nanoseconds. Counts
that lead out of the supported years are refused, whatever their size, with one exception: days
that are more than one step on the calendar can take leave the range before the step is made.
-/

namespace Cadence

/-! ### Counts of a span -/

namespace Span

variable {x : Span} {days : Int}

/-- The weeks and days of a span, in days. -/
def wholeDays (x : Span) : Int := x.weeks * 7 + x.days

/-- The month that lies the months of a span before a reading is in a supported year. -/
def MonthsReach (x : Span) (r : Reading) : Prop :=
  Date.monthIndex ⟨Date.firstYear, 1, 1⟩ ≤ r.monthIndex - x.months

theorem dayCount?_eq_some_iff (hx : x.Nonneg) :
    x.dayCount? = some days ↔ x.wholeDays ≤ Counter.greatest ∧ x.wholeDays = days := by
  have hweeks : 0 ≤ x.weeks := hx .weeks
  have hdays : 0 ≤ x.days := hx .days
  simp only [dayCount?, wholeDays, Option.bind_eq_bind, Option.bind_eq_some_iff,
    Counter.fit?_eq_some_iff, Counter.Fits, Counter.least]
  constructor
  · rintro ⟨_, ⟨-, rfl⟩, ⟨-, hle⟩, rfl⟩
    exact ⟨hle, rfl⟩
  · rintro ⟨hle, rfl⟩
    exact ⟨_, ⟨⟨by omega, by omega⟩, rfl⟩, ⟨by omega, hle⟩, rfl⟩

theorem eq_wholeDays (h : x.dayCount? = some days) : days = x.wholeDays := by
  simp only [dayCount?, Option.bind_eq_bind, Option.bind_eq_some_iff,
    Counter.fit?_eq_some_iff] at h
  obtain ⟨_, ⟨-, rfl⟩, -, rfl⟩ := h
  rfl

theorem exceedsDays_iff (hx : x.Nonneg) :
    x.ExceedsDays ↔ mostDays < x.wholeDays ∧ x.wholeDays ≤ Counter.greatest := by
  simp only [ExceedsDays, Option.mem_def, dayCount?_eq_some_iff hx]
  constructor
  · rintro ⟨_, ⟨hle, rfl⟩, hlt⟩
    exact ⟨hlt, hle⟩
  · rintro ⟨hlt, hle⟩
    exact ⟨_, ⟨hle, rfl⟩, hlt⟩

end Span

/-! ### Steps on the calendar -/

namespace Reading

variable {r s : Reading} {x : Span}

theorem supported_eq_ok_iff : r.supported = .ok s ↔ r.Supported ∧ r = s := by
  unfold supported
  split <;> simp [*]

theorem daySteps_eq_overflow_iff : r.daySteps x = .error .overflow ↔ x.ExceedsDays := by
  constructor
  · intro h
    rcases r.failsOnly_daySteps x _ h with hdata | ⟨-, hdays⟩
    · cases hdata
    · exact hdays
  · rintro ⟨days, hdays, hlt⟩
    exact bind_eq_error_iff.mpr (.inr ⟨days, elim_eq_ok_iff.mpr hdays, if_pos hlt⟩)

theorem exists_days_of_daySteps (h : r.daySteps x = .ok s) :
    ∃ days, x.dayCount? = some days ∧ days ≤ mostDays := by
  obtain ⟨days, hdays, h⟩ := bind_eq_ok_iff.mp h
  split at h
  · cases h
  · next hmost => exact ⟨days, elim_eq_ok_iff.mp hdays, Int.not_lt.mp hmost⟩

/-- The months of a span can be taken from a reading exactly when they lead to a supported year. -/
theorem exists_monthStep_iff (hx : x.Nonneg) (hr : Counter.Fits r.nanos) :
    (∃ s, r.monthStep x = .ok s) ↔ x.MonthsReach r := by
  have hmonths : 0 ≤ x.months := hx .months
  obtain ⟨hlo, hhi⟩ := monthIndex_bounds hr
  unfold monthStep
  split
  · simp only [supported_eq_ok_iff, exists_eq_right', supported_iff_monthIndex,
      monthIndex_monthsBefore, Span.MonthsReach, Date.monthIndex, Date.firstYear, Date.lastYear]
    omega
  · simp only [Except.ok.injEq, exists_eq', true_iff, Span.MonthsReach, Date.monthIndex,
      Date.firstYear]
    omega

theorem before_eq_overflow_iff (hx : x.Nonneg) (hr : Counter.Fits r.nanos) :
    r.before x = .error .overflow ↔ x.MonthsReach r ∧ x.ExceedsDays := by
  rw [before_eq, bind_eq_error_iff, ← exists_monthStep_iff hx hr]
  simp only [daySteps_eq_overflow_iff, exists_and_right]
  exact or_iff_right fun h => nomatch r.refusesTimes_monthStep x _ h

theorem reach_of_before (hx : x.Nonneg) (hr : Counter.Fits r.nanos) (h : r.before x = .ok s) :
    x.MonthsReach r ∧ x.wholeDays ≤ mostDays := by
  rw [before_eq] at h
  obtain ⟨r', hmonths, h⟩ := bind_eq_ok_iff.mp h
  obtain ⟨days, hdays, hle⟩ := exists_days_of_daySteps h
  obtain ⟨-, rfl⟩ := (Span.dayCount?_eq_some_iff hx).mp hdays
  exact ⟨(exists_monthStep_iff hx hr).mp ⟨r', hmonths⟩, hle⟩

end Reading

/-! ### Shifted instants -/

namespace Zone

variable {zone : Zone} {x : Span} {t s : Int}

theorem fits_of_shiftBack (h : zone.shiftBack x t = .ok s) : Counter.Fits s := by
  unfold shiftBack at h
  split at h
  · obtain ⟨hfits, rfl⟩ := Counter.require_eq_ok_iff.mp h
    exact hfits
  · obtain ⟨reading, -, h⟩ := bind_eq_ok_iff.mp h
    obtain ⟨earlier, -, h⟩ := bind_eq_ok_iff.mp h
    exact fits_of_instantOf h

theorem reach_of_shiftBack (hx : x.Nonneg) (hcalendar : ¬x.IsFixed)
    (h : zone.shiftBack x t = .ok s) :
    x.MonthsReach (zone.reading t) ∧ x.wholeDays ≤ mostDays := by
  rw [shiftBack, if_neg hcalendar] at h
  obtain ⟨reading, hreading, h⟩ := bind_eq_ok_iff.mp h
  obtain ⟨earlier, hearlier, -⟩ := bind_eq_ok_iff.mp h
  obtain ⟨hfits, rfl⟩ := Counter.require_eq_ok_iff.mp hreading
  exact Reading.reach_of_before hx hfits hearlier

/-- A shift leaves the range exactly where its months can be taken and its days cannot. -/
theorem shiftBack_eq_overflow_iff (hx : x.Nonneg) :
    zone.shiftBack x t = .error .overflow ↔
      Counter.Fits (zone.reading t).nanos ∧ x.MonthsReach (zone.reading t) ∧ x.ExceedsDays := by
  by_cases hfixed : x.IsFixed
  · -- No days are taken where there are none.
    have hdays : ¬x.ExceedsDays := by
      rw [Span.exceedsDays_iff hx, Span.wholeDays, hfixed.2.1, hfixed.2.2]
      decide
    rw [shiftBack, if_pos hfixed, Counter.require_eq_error_iff]
    exact ⟨fun h => absurd h.2 (by decide), fun h => absurd h.2.2 hdays⟩
  · rw [shiftBack, if_neg hfixed]
    constructor
    · intro h
      rcases bind_eq_error_iff.mp h with h | ⟨reading, hreading, h⟩
      · cases zone.refusesTimes_counterAt t _ h
      · obtain ⟨hfits, rfl⟩ := Counter.require_eq_ok_iff.mp hreading
        rcases bind_eq_error_iff.mp h with h | ⟨earlier, -, h⟩
        · exact ⟨hfits, (Reading.before_eq_overflow_iff hx hfits).mp h⟩
        · cases zone.refusesTimes_instantOf earlier _ h
    · rintro ⟨hfits, hreach⟩
      have hcounter : zone.counterAt t = .ok (zone.reading t).nanos :=
        Counter.require_eq_ok_iff.mpr ⟨hfits, rfl⟩
      apply bind_eq_error_iff.mpr (.inr ⟨_, hcounter, _⟩)
      exact bind_eq_error_iff.mpr (.inl ((Reading.before_eq_overflow_iff hx hfits).mpr hreach))

end Zone

namespace StartOffset

variable {spec spec' : WindowSpec} {text : String} {offset : StartOffset}

/-- The counts of an offset that is read are not negative. -/
theorem nonneg_of_parse (h : parse text = .ok offset) : offset.span.Nonneg := by
  unfold parse at h
  dsimp only at h
  split at h
  · cases h
  · obtain ⟨duration, -, h⟩ := bind_eq_ok_iff.mp h
    obtain ⟨span, hspan, h⟩ := bind_eq_ok_iff.mp h
    cases h
    exact Duration.span_nonneg (mapError_eq_ok_iff.mp hspan)

/-- An instant is moved back by an accepted offset to one that a counter can hold, or it is
refused for the data, or the shift leaves the range. On the calendar only months that lead to a
supported year and days that one step can take are taken at all. The shift leaves the range
exactly when its months can be taken and its days, if a counter can hold their number, cannot. -/
theorem shiftBack_outcome (h : spec.withStartOffset text = .ok spec') :
    ∃ offset, spec'.offset = some offset ∧ ∀ (zone : Zone) (t : Int),
      (∀ s, zone.shiftBack offset.span t = .ok s → Counter.Fits s ∧ (¬offset.span.IsFixed →
        offset.span.MonthsReach (zone.reading t) ∧ offset.span.wholeDays ≤ mostDays)) ∧
      (∀ e, zone.shiftBack offset.span t = .error e → e.kind = .dataFormat ∨ e = .overflow) ∧
      (zone.shiftBack offset.span t = .error .overflow ↔
        Counter.Fits (zone.reading t).nanos ∧ offset.span.MonthsReach (zone.reading t) ∧
          mostDays < offset.span.wholeDays ∧ offset.span.wholeDays ≤ Counter.greatest) := by
  obtain ⟨offset, hparse, h⟩ := bind_eq_ok_iff.mp h
  cases h
  have hx := nonneg_of_parse hparse
  refine ⟨offset, rfl, fun zone t => ⟨?_, ?_, ?_⟩⟩
  · intro s hs
    exact ⟨Zone.fits_of_shiftBack hs, fun hcalendar => Zone.reach_of_shiftBack hx hcalendar hs⟩
  · intro e he
    exact (zone.failsOnly_shiftBack offset.span t e he).imp_right And.left
  · rw [Zone.shiftBack_eq_overflow_iff hx, Span.exceedsDays_iff hx]

/-- Windows of an hour, for times moved back by a text. -/
def hourly : WindowSpec where
  timeColumn := "ts"
  every := ⟨[⟨1, .h, one_lt_wordSize⟩]⟩
  period := .fixed 3600000000000

/-- One day more than a step on the calendar can take, in weeks and days, after a month. -/
theorem shiftBack_outcome_weeks :
    ∃ spec offset, hourly.withStartOffset "1mo15250284452w4d" = .ok spec ∧
      spec.offset = some offset ∧ offset.span = ⟨1, 15250284452, 4, 0⟩ ∧
      Zone.london.shiftBack offset.span 1679792400000000000 = .error .overflow := by
  let offset : StartOffset := ⟨⟨[⟨1, .mo, by decide⟩, ⟨15250284452, .w, by decide⟩,
    ⟨4, .d, by decide⟩]⟩, ⟨1, 15250284452, 4, 0⟩⟩
  have haccepted : hourly.withStartOffset "1mo15250284452w4d" =
      .ok { hourly with offset := some offset } := by decide +kernel
  obtain ⟨offset', hoffset, hshift⟩ := shiftBack_outcome haccepted
  obtain rfl : offset = offset' := Option.some.inj hoffset
  obtain ⟨-, -, hiff⟩ := hshift .london 1679792400000000000
  refine ⟨_, offset, haccepted, rfl, rfl, hiff.mpr ⟨by decide +kernel, ?_, by decide, by decide⟩⟩
  unfold Span.MonthsReach
  decide +kernel

/-- An offset is accepted by which the first instant of 1970 cannot be moved back, and its shift
is not refused for the data. -/
theorem shiftBack_far_days :
    ∃ spec offset zone, hourly.withStartOffset "106751991168d" = .ok spec ∧
      spec.offset = some offset ∧ Zone.ofLabel? none = some zone ∧
      zone.shiftBack offset.span 0 = .error .overflow ∧ Error.overflow.kind ≠ .dataFormat := by
  let offset : StartOffset :=
    ⟨⟨[⟨106751991168, .d, by decide⟩]⟩, ⟨0, 0, 106751991168, 0⟩⟩
  have haccepted : hourly.withStartOffset "106751991168d" =
      .ok { hourly with offset := some offset } := by decide +kernel
  have hshift : (Zone.fixed 0).shiftBack offset.span 0 = .error .overflow := by decide +kernel
  exact ⟨_, offset, .fixed 0, haccepted, rfl, rfl, hshift, by decide⟩

end StartOffset

end Cadence
