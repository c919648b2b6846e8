import Cadence.Proofs.Window.Grid

/-!
# Lengths of periods

The length of a period is made of the counters of a span, and every step on the way has to stay
within the range of a counter. No counter of a span is negative, so no step exceeds the length
that it leads to: a span is refused only when it is empty, when it mixes months with other units,
or when no counter holds its nanoseconds. Cells are found by remainders, and a length by which
they are taken is never zero.
-/

namespace Cadence

/-! ### Lengths of spans -/

namespace Span

variable {x : Span} {n : Int}

/-- The nanoseconds of weeks, days and shorter units on a clock that never changes, of any size. -/
def clockLength (x : Span) : Int := (7 * x.weeks + x.days) * nanosPerDay + x.nanos

/-- Some months, and nothing else. -/
def MonthsOnly (x : Span) : Prop := 0 < x.months ∧ x.weeks = 0 ∧ x.days = 0 ∧ x.nanos = 0

/-- Some units that the clock counts, and no months. -/
def ClockOnly (x : Span) : Prop := x.months = 0 ∧ (x.weeks ≠ 0 ∨ x.days ≠ 0 ∨ x.nanos ≠ 0)

/-- All steps of adding up a length fit as soon as the length does. -/
theorem clockNanos?_eq_some_iff (hx : x.Nonneg) :
    x.clockNanos? = some n ↔ Counter.Fits x.clockLength ∧ x.clockLength = n := by
  have hlength : (x.weeks * 7 + x.days) * nanosPerDay + x.nanos = x.clockLength := by
    rw [clockLength, Int.mul_comm x.weeks]
  constructor
  · intro h
    obtain ⟨hfits, rfl⟩ := Period.clockNanos?_eq_some h
    exact ⟨hlength ▸ hfits, hlength.symm⟩
  · rintro ⟨hfits, rfl⟩
    have hweeks : 0 ≤ x.weeks := hx .weeks
    have hdays : 0 ≤ x.days := hx .days
    have hnanos : 0 ≤ x.nanos := hx .nanos
    have hgreatest := hfits.2
    have hsteps : Counter.Fits (x.weeks * 7) ∧ Counter.Fits (x.weeks * 7 + x.days) ∧
        Counter.Fits ((x.weeks * 7 + x.days) * nanosPerDay) := by
      simp only [clockLength, nanosPerDay, Counter.Fits, Counter.least, Counter.greatest] at *
      omega
    obtain ⟨hweek, hday, hclock⟩ := hsteps
    simp only [clockNanos?, dayCount?, Option.bind_eq_bind, Option.bind_eq_some_iff,
      Counter.fit?_eq_some_iff]
    exact ⟨_, ⟨_, ⟨hweek, rfl⟩, hday, rfl⟩, _, ⟨hclock, rfl⟩, hlength.symm ▸ hfits, hlength⟩

end Span

/-! ### Periods of spans -/

namespace Period

variable {x : Span} {p : Period} {every : String} {fault : ConfigurationFault}

/-- How many nanoseconds or months the cells are long. -/
def length : Period → Int
  | fixed n | days n | weeks n | months n => n

/-- The period that the counters of a span amount to. -/
def ofCounters (x : Span) : Period :=
  if 0 < x.months then months x.months
  else if x.weeks = 0 ∧ x.days = 0 then fixed x.nanos
  else if x.days = 0 ∧ x.nanos = 0 then weeks x.clockLength
  else days x.clockLength

/-- A span of which a counter holds the length: of months, or on the clock. -/
def IsLength (x : Span) : Prop := x.MonthsOnly ∨ x.ClockOnly ∧ Counter.Fits x.clockLength

/-- Why a span is no length of a window. -/
inductive Refuses (every : String) (x : Span) : ConfigurationFault → Prop
  | empty : x.months = 0 → x.weeks = 0 ∧ x.days = 0 ∧ x.nanos = 0 →
      Refuses every x (.emptyWindow every)
  | mixed : 0 < x.months → ¬(x.weeks = 0 ∧ x.days = 0 ∧ x.nanos = 0) →
      Refuses every x (.mixedMonths every)
  | oversized : x.months = 0 → ¬Counter.Fits x.clockLength →
      Refuses every x (.oversizedWindow every)

theorem isLength_or_refuses (hx : x.Nonneg) (every : String) :
    IsLength x ∨ ∃ fault, Refuses every x fault := by
  have hmonths : 0 ≤ x.months := hx .months
  by_cases hnone : x.months = 0 <;> by_cases hrest : x.weeks = 0 ∧ x.days = 0 ∧ x.nanos = 0
  · exact .inr ⟨_, .empty hnone hrest⟩
  · by_cases hfits : Counter.Fits x.clockLength
    · exact .inl (.inr ⟨⟨hnone, by omega⟩, hfits⟩)
    · exact .inr ⟨_, .oversized hnone hfits⟩
  · exact .inl (.inl ⟨by omega, hrest⟩)
  · exact .inr ⟨_, .mixed (by omega) hrest⟩

theorem ofSpan_eq_ok (hx : x.Nonneg) (h : IsLength x) : ofSpan every x = .ok (ofCounters x) := by
  rcases h with ⟨hmonths, hrest⟩ | ⟨⟨hnone, hsome⟩, hfits⟩
  · have hzero : ¬x.IsZero := fun h => by
      have := h.1.1
      omega
    rw [ofSpan, if_neg hzero, if_pos hmonths, if_pos hrest, ofCounters, if_pos hmonths]
  · have hzero : ¬x.IsZero := fun h => by
      have := h.1.2
      have := h.2
      omega
    have hmonths : ¬x.months > 0 := by omega
    rw [ofSpan, if_neg hzero, if_neg hmonths, ofCounters, if_neg hmonths]
    by_cases hfixed : x.weeks = 0 ∧ x.days = 0
    · rw [if_pos ⟨hnone, hfixed⟩, if_pos hfixed]
    · rw [if_neg fun h => hfixed h.2, if_neg hfixed,
        (Span.clockNanos?_eq_some_iff hx).mpr ⟨hfits, rfl⟩]

theorem ofSpan_eq_error (hx : x.Nonneg) (hfits : x.Fits) (h : Refuses every x fault) :
    ofSpan every x = .error fault := by
  cases h with
  | empty hnone hrest => exact if_pos ⟨⟨hnone, hrest.1, hrest.2.1⟩, hrest.2.2⟩
  | mixed hmonths hrest =>
      have hzero : ¬x.IsZero := fun h => by
        have := h.1.1
        omega
      rw [ofSpan, if_neg hzero, if_pos hmonths, if_neg hrest]
  | oversized hnone hlong =>
      -- Units shorter than a day are added up in one counter, which holds them.
      have hfixed : ¬x.IsFixed := by
        rintro ⟨-, hweeks, hdays⟩
        have hlength : x.clockLength = x.nanos := by
          rw [Span.clockLength, hweeks, hdays]
          omega
        exact hlong (hlength ▸ hfits .nanos)
      have hclock : x.clockNanos? = none := by
        rw [Option.eq_none_iff_forall_ne_some]
        exact fun n hn => hlong ((Span.clockNanos?_eq_some_iff hx).mp hn).1
      have hmonths : ¬x.months > 0 := by omega
      rw [ofSpan, if_neg fun h => hfixed h.1, if_neg hmonths, if_neg hfixed, hclock]

theorem ofSpan_eq_ok_iff (hx : x.Nonneg) (hfits : x.Fits) :
    ofSpan every x = .ok p ↔ IsLength x ∧ ofCounters x = p := by
  constructor
  · intro h
    rcases isLength_or_refuses hx every with hlength | ⟨fault, hfault⟩
    · exact ⟨hlength, Except.ok.inj ((ofSpan_eq_ok hx hlength).symm.trans h)⟩
    · cases (ofSpan_eq_error hx hfits hfault).symm.trans h
  · rintro ⟨hlength, rfl⟩
    exact ofSpan_eq_ok hx hlength

theorem ofSpan_eq_error_iff (hx : x.Nonneg) (hfits : x.Fits) :
    ofSpan every x = .error fault ↔ Refuses every x fault := by
  refine ⟨fun h => ?_, ofSpan_eq_error hx hfits⟩
  rcases isLength_or_refuses hx every with hlength | ⟨fault', hfault⟩
  · cases (ofSpan_eq_ok hx hlength).symm.trans h
  · cases (ofSpan_eq_error hx hfits hfault).symm.trans h
    exact hfault

theorem Regular.one_le_length (h : p.Regular) : 1 ≤ p.length := by
  cases p with
  | fixed n | days n | months n => exact h
  | weeks n => exact h.1

/-! ### Periods of durations -/

/-- A duration that has a span has a period exactly when the span is of months alone, or of other
units alone that a counter of nanoseconds holds together, and the period has just this length, of
at least one. Every other span is refused as a choice that cannot be carried out: it is empty, or
mixed, or too long. -/
theorem ofDuration_length {every : Duration} (hspan : every.span = .ok x) :
    (∀ p, ofDuration every = .ok p ↔
      (x.MonthsOnly ∨ x.ClockOnly ∧ Counter.Fits x.clockLength) ∧ ofCounters x = p) ∧
    (∀ p, ofDuration every = .ok p → 1 ≤ p.length) ∧
    ∀ e, ofDuration every = .error e ↔
      ∃ fault, Refuses every.text x fault ∧ .configuration fault = e := by
  have hx := Duration.span_nonneg hspan
  have hfits := Duration.span_fits hspan
  have hperiod : ofDuration every = (ofSpan every.text x).mapError .configuration := by
    rw [ofDuration, hspan]
    rfl
  refine ⟨?_, ?_, ?_⟩
  · intro p
    rw [hperiod, mapError_eq_ok_iff]
    exact ofSpan_eq_ok_iff hx hfits
  · intro p hp
    exact (regular_of_ofDuration hp).one_le_length
  · intro e
    rw [hperiod, mapError_eq_error_iff]
    exact exists_congr fun fault => and_congr_left fun _ => ofSpan_eq_error_iff hx hfits

/-- The longest span that a counter of nanoseconds holds, of weeks, days and nanoseconds. -/
def longest : Duration :=
  ⟨[⟨15250, .w, by decide⟩, ⟨1, .d, one_lt_wordSize⟩, ⟨85636854775807, .ns, by decide⟩]⟩

/-- A nanosecond more than a counter holds. -/
def tooLong : Duration := ⟨⟨1, .ns, one_lt_wordSize⟩ :: longest.parts⟩

theorem ofDuration_length_longest :
    longest.span = .ok ⟨0, 15250, 1, 85636854775807⟩ ∧
      ofDuration longest = .ok (days Counter.greatest) ∧ 1 ≤ Counter.greatest ∧
      tooLong.span = .ok ⟨0, 15250, 1, 85636854775808⟩ ∧
      ofDuration tooLong = .error (.configuration (.oversizedWindow tooLong.text)) := by
  have hlongest : longest.span = .ok ⟨0, 15250, 1, 85636854775807⟩ := by rfl
  have htooLong : tooLong.span = .ok ⟨0, 15250, 1, 85636854775808⟩ := by rfl
  obtain ⟨haccepted, hpositive, -⟩ := ofDuration_length hlongest
  obtain ⟨-, -, hrefused⟩ := ofDuration_length htooLong
  have hperiod := (haccepted _).mpr ⟨.inr ⟨⟨rfl, .inl (by decide)⟩, by decide⟩, rfl⟩
  exact ⟨hlongest, hperiod, hpositive _ hperiod, htooLong,
    (hrefused _).mpr ⟨_, .oversized rfl (by decide), rfl⟩⟩

end Period

end Cadence
