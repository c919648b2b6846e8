import Cadence.Proofs.Calendar.Months
import Cadence.Proofs.Duration.Span
import Cadence.Proofs.Outcome
import Cadence.Window.Period
import Mathlib.Order.Basic

/-!
# The grid of a period

The boundaries of a period form a grid on the wall clock. A reading lies in the
cell between two neighbouring boundaries, and the window of an instant is the
cell of its reading with both ends taken back to instants. Cells of one grid are
equal or do not meet.
-/

namespace Cadence

/-! ### Bounds -/

theorem Bounds.Contains.lower_lt_upper {b : Bounds} {closed : Closed} {t : Int}
    (h : b.Contains closed t) : b.lower < b.upper := by
  cases closed with
  | left => exact Int.lt_of_le_of_lt h.1 h.2
  | right => exact Int.lt_of_lt_of_le h.1 h.2

theorem Bounds.Contains.le_and_le {b : Bounds} {closed : Closed} {t : Int}
    (h : b.Contains closed t) : b.lower ≤ t ∧ t ≤ b.upper := by
  cases closed with
  | left => exact ⟨h.1, h.2.le⟩
  | right => exact ⟨h.1.le, h.2⟩

namespace Period

/-- A length of at least one nanosecond or one month, and of whole weeks where it
counts weeks. -/
def Regular : Period → Prop
  | fixed n | days n | months n => 0 < n
  | weeks n => 0 < n ∧ 7 * nanosPerDay ∣ n

/-- The readings between which the cells of a period lie. -/
def IsBoundary (p : Period) (x : Reading) : Prop :=
  match p with
  | fixed n | days n => n ∣ x.nanos
  | weeks n => n ∣ x.nanos - mondayOrigin
  | months n => ∃ k, n ∣ k ∧ x = Reading.startOfMonth k

/-- The cell that holds a reading: two boundaries with none between them. -/
structure IsCell (p : Period) (closed : Closed) (r : Reading) (c : Bounds) : Prop where
  lower : p.IsBoundary ⟨c.lower⟩
  upper : p.IsBoundary ⟨c.upper⟩
  contains : c.Contains closed r.nanos
  gapless : ∀ x, p.IsBoundary x → x.nanos ≤ c.lower ∨ c.upper ≤ x.nanos

/-- Cells of one length, counted from an origin. -/
inductive IsClock : Period → Int → Int → Prop
  | fixed {n : Int} : IsClock (fixed n) n 0
  | days {n : Int} : IsClock (days n) n 0
  | weeks {n : Int} : IsClock (weeks n) n mondayOrigin

variable {p : Period} {closed : Closed} {r s : Reading} {c c' : Bounds} {span origin : Int}

/-! ### Cells of one length -/

theorem isClock_or_months (p : Period) :
    (∃ span origin, p.IsClock span origin) ∨ ∃ count, p = months count := by
  cases p with
  | fixed n => exact .inl ⟨n, 0, .fixed⟩
  | days n => exact .inl ⟨n, 0, .days⟩
  | weeks n => exact .inl ⟨n, mondayOrigin, .weeks⟩
  | months count => exact .inr ⟨count, rfl⟩

namespace IsClock

variable (h : p.IsClock span origin)
include h

theorem pos (hp : p.Regular) : 0 < span := by
  cases h with
  | fixed | days => exact hp
  | weeks => exact hp.1

theorem isBoundary_iff (x : Reading) : p.IsBoundary x ↔ span ∣ x.nanos - origin := by
  cases h with
  | fixed | days => rw [Int.sub_zero, IsBoundary]
  | weeks => rfl

theorem windowOf_eq (closed : Closed) (zone : Zone) (t : Int) :
    p.windowOf closed zone t = clockWindow span origin closed zone t := by
  cases h <;> rfl

end IsClock

/-! ### Cells of one grid -/

/-- Two cells that share their lower or their upper end, or a reading, are one. -/
theorem IsCell.upper_le_of_lower_lt (h : p.IsCell closed r c) (h' : p.IsCell closed s c')
    (hlt : c.lower < c'.lower) : c.upper ≤ c'.lower := by
  rcases h.gapless _ h'.lower with hle | hle
  · exact absurd hle (not_le_of_gt hlt)
  · exact hle

theorem IsCell.eq_of_lower_eq (h : p.IsCell closed r c) (h' : p.IsCell closed s c')
    (heq : c.lower = c'.lower) : c = c' := by
  have hlt := h.contains.lower_lt_upper
  have hlt' := h'.contains.lower_lt_upper
  have hupper : c.upper = c'.upper := by
    rcases h.gapless _ h'.upper with hle | hle
    · dsimp only at hle
      omega
    · rcases h'.gapless _ h.upper with hle' | hle'
      · dsimp only at hle'
        omega
      · exact le_antisymm hle hle'
  cases c
  cases c'
  exact congrArg₂ Bounds.mk heq hupper

theorem IsCell.eq_of_contains (h : p.IsCell closed r c) (h' : p.IsCell closed s c')
    (hmem : c.Contains closed s.nanos) : c = c' := by
  have hmem' := h'.contains
  apply h.eq_of_lower_eq h'
  rcases lt_trichotomy c.lower c'.lower with hlt | heq | hlt
  · have := h.upper_le_of_lower_lt h' hlt
    cases closed <;> simp only [Bounds.Contains] at hmem hmem' <;> omega
  · exact heq
  · have := h'.upper_le_of_lower_lt h hlt
    cases closed <;> simp only [Bounds.Contains] at hmem hmem' <;> omega

theorem IsCell.unique (h : p.IsCell closed r c) (h' : p.IsCell closed r c') : c = c' :=
  h.eq_of_contains h' h.contains

theorem IsCell.of_contains (h : p.IsCell closed r c) (hmem : c.Contains closed s.nanos) :
    p.IsCell closed s c :=
  ⟨h.lower, h.upper, hmem, h.gapless⟩

/-! ### The cell of a reading -/

/-- A whole number of lengths leads from the origin to where the cell of a reading starts. -/
theorem dvd_start (span origin reading : Int) :
    span ∣ reading - (reading - origin) % span - origin := by
  rw [show reading - (reading - origin) % span - origin =
    reading - origin - (reading - origin) % span by omega]
  exact Int.dvd_self_sub_emod

/-- The cell computed from a length and an origin. Counters can hold its ends. -/
theorem clockCell_spec {span origin reading : Int} (hspan : 0 < span)
    (h : clockCell span origin closed reading = .ok c) :
    (span ∣ c.lower - origin ∧ c.upper = c.lower + span ∧ c.Contains closed reading) ∧
      Counter.Fits c.lower ∧ Counter.Fits c.upper := by
  obtain ⟨distance, hdistance, h⟩ := bind_eq_ok_iff.mp h
  obtain ⟨start, hstart, hcell⟩ := bind_eq_ok_iff.mp h
  obtain ⟨-, hdistance⟩ := Counter.require_eq_ok_iff.mp hdistance
  obtain ⟨hfits, hstart⟩ := Counter.require_eq_ok_iff.mp hstart
  rw [hstart] at hfits
  have hrest := Int.emod_nonneg distance hspan.ne'
  have hlt := Int.emod_lt_of_pos distance hspan
  have hdvd : span ∣ start - origin := by
    rw [← hstart, ← hdistance]
    exact dvd_start span origin reading
  dsimp only at hcell
  split at hcell
  · next hat =>
      obtain ⟨lower, hlower, hcell⟩ := bind_eq_ok_iff.mp hcell
      obtain ⟨upper, hupper, hcell⟩ := bind_eq_ok_iff.mp hcell
      obtain ⟨hfirst, rfl⟩ := Counter.require_eq_ok_iff.mp hlower
      obtain ⟨hlast, rfl⟩ := Counter.require_eq_ok_iff.mp hupper
      obtain ⟨rfl, hat⟩ := hat
      cases hcell
      refine ⟨⟨?_, rfl, ?_⟩, hfirst, hlast⟩
      · rw [show start - span - origin = start - origin - span by omega]
        exact Int.dvd_sub hdvd (Int.dvd_refl span)
      · simp only [Bounds.Contains]
        omega
  · next hinside =>
      obtain ⟨lower, hlower, hcell⟩ := bind_eq_ok_iff.mp hcell
      obtain ⟨upper, hupper, hcell⟩ := bind_eq_ok_iff.mp hcell
      obtain ⟨hlast, rfl⟩ := Counter.require_eq_ok_iff.mp hupper
      cases hlower
      cases hcell
      refine ⟨⟨hdvd, rfl, ?_⟩, hfits, hlast⟩
      cases closed with
      | left =>
          simp only [Bounds.Contains]
          omega
      | right =>
          simp only [true_and] at hinside
          simp only [Bounds.Contains]
          omega

theorem require_of_fits {refusal : Error} {n : Int} (h : Counter.Fits n) :
    Counter.require refusal n = .ok n :=
  Counter.require_eq_ok_iff.mpr ⟨h, rfl⟩

/-- A reading has the cell that holds it, if counters can hold all there is to compute. -/
theorem clockCell_eq_ok {span origin reading : Int} (hdvd : span ∣ c.lower - origin)
    (hlength : c.upper = c.lower + span) (hmem : c.Contains closed reading)
    (hlower : Counter.Fits c.lower) (hupper : Counter.Fits c.upper)
    (hdistance : Counter.Fits (reading - origin)) :
    clockCell span origin closed reading = .ok c := by
  obtain ⟨k, hk⟩ := hdvd
  have hrest : (reading - origin) % span = (reading - c.lower) % span := by
    rw [show reading - origin = reading - c.lower + span * k by omega, Int.add_mul_emod_self_left]
  have hlt := hmem.lower_lt_upper
  unfold clockCell
  rw [bind_eq_ok_iff]
  refine ⟨_, require_of_fits hdistance, ?_⟩
  rw [hrest, bind_eq_ok_iff]
  by_cases hat : reading = c.upper
  · have hclosed : closed = .right := by
      cases closed with
      | left => exact absurd hat (ne_of_lt hmem.2)
      | right => rfl
    have hzero : (reading - c.lower) % span = 0 := by
      rw [show reading - c.lower = span by omega, Int.emod_self]
    have hlast : reading - span = c.lower := by omega
    refine ⟨reading, ?_, ?_⟩
    · rw [hzero, Int.sub_zero]
      exact require_of_fits (hat ▸ hupper)
    · dsimp only
      rw [if_pos ⟨hclosed, rfl⟩, hlast, require_of_fits hlower, bind_eq_ok_iff]
      refine ⟨c.lower, rfl, ?_⟩
      rw [← hlength, require_of_fits hupper]
      rfl
  · have hfirst : (reading - c.lower) % span = reading - c.lower := by
      cases closed with
      | left => exact Int.emod_eq_of_lt (by have := hmem.1; omega) (by have := hmem.2; omega)
      | right => exact Int.emod_eq_of_lt (by have := hmem.1; omega) (by have := hmem.2; omega)
    have hinside : ¬(closed = .right ∧ c.lower = reading) := by
      rintro ⟨rfl, heq⟩
      exact absurd heq (ne_of_lt hmem.1)
    refine ⟨c.lower, ?_, ?_⟩
    · rw [hfirst, show reading - (reading - c.lower) = c.lower by omega]
      exact require_of_fits hlower
    · dsimp only
      rw [if_neg hinside, bind_eq_ok_iff]
      refine ⟨c.lower, rfl, ?_⟩
      rw [← hlength, require_of_fits hupper]
      rfl

/-- Two numbers a multiple of a length apart are equal or at least that length apart. -/
theorem le_or_le_of_dvd {span lower x : Int} (h : span ∣ x - lower) :
    x ≤ lower ∨ lower + span ≤ x := by
  by_cases hle : x ≤ lower
  · exact Or.inl hle
  · have := Int.le_of_dvd (by omega) h
    exact Or.inr (by omega)

/-- Stretches of one length are the cells of a grid of that length. -/
theorem isCell_of_dvd (hclock : p.IsClock span origin) (hlower : span ∣ c.lower - origin)
    (hlength : c.upper = c.lower + span) (hmem : c.Contains closed r.nanos) :
    p.IsCell closed r c := by
  refine ⟨(hclock.isBoundary_iff _).mpr hlower, (hclock.isBoundary_iff _).mpr ?_, hmem, ?_⟩
  · dsimp only
    rw [hlength, show c.lower + span - origin = c.lower - origin + span by omega]
    exact Int.dvd_add hlower (Int.dvd_refl span)
  · intro x hx
    have hdvd : span ∣ x.nanos - c.lower := by
      rw [show x.nanos - c.lower = x.nanos - origin - (c.lower - origin) by omega]
      exact Int.dvd_sub ((hclock.isBoundary_iff x).mp hx) hlower
    rw [hlength]
    exact le_or_le_of_dvd hdvd

/-- The cell computed from a length and an origin, on the grid of that length. -/
theorem isCell_of_clockCell {reading : Int} (hp : p.Regular) (hclock : p.IsClock span origin)
    (h : clockCell span origin closed reading = .ok c) : p.IsCell closed ⟨reading⟩ c := by
  obtain ⟨⟨hlower, hlength, hmem⟩, -⟩ := clockCell_spec (hclock.pos hp) h
  exact isCell_of_dvd hclock hlower hlength hmem

/-- The first month of a cell is a multiple of its number of months. -/
theorem dvd_monthCell (count : Int) (closed : Closed) (r : Reading) :
    count ∣ monthCell count closed r := by
  have hdvd : count ∣ r.monthIndex - r.monthIndex % count := Int.dvd_self_sub_emod
  unfold monthCell
  dsimp only
  split
  · exact Int.dvd_sub hdvd (Int.dvd_refl count)
  · exact hdvd

/-- A reading lies between the first months of its cell and of the next one. -/
theorem contains_monthCell {count : Int} (hcount : 0 < count) (closed : Closed) (r : Reading) :
    Bounds.Contains ⟨(Reading.startOfMonth (monthCell count closed r)).nanos,
      (Reading.startOfMonth (monthCell count closed r + count)).nanos⟩ closed r.nanos := by
  have hrest := Int.emod_nonneg r.monthIndex hcount.ne'
  have hlt := Int.emod_lt_of_pos r.monthIndex hcount
  have hbegun : (Reading.startOfMonth (r.monthIndex - r.monthIndex % count)).nanos ≤ r.nanos :=
    Reading.startOfMonth_le_iff.mpr (by omega)
  have hnext : ¬(Reading.startOfMonth (r.monthIndex - r.monthIndex % count + count)).nanos ≤
      r.nanos := by
    rw [Reading.startOfMonth_le_iff]
    omega
  unfold monthCell
  dsimp only
  generalize r.monthIndex - r.monthIndex % count = start at *
  split
  · next hat =>
      obtain ⟨rfl, hat⟩ := hat
      have hstart : (Reading.startOfMonth start).nanos = r.nanos := congrArg Reading.nanos hat
      have hprev : (Reading.startOfMonth (start - count)).nanos <
          (Reading.startOfMonth start).nanos :=
        Reading.startOfMonth_lt_iff.mpr (by omega)
      rw [Int.sub_add_cancel]
      exact ⟨hstart ▸ hprev, hstart.ge⟩
  · next hinside =>
      cases closed with
      | left => exact ⟨hbegun, Int.not_le.mp hnext⟩
      | right =>
          have hne : (Reading.startOfMonth start).nanos ≠ r.nanos := by
            intro heq
            exact hinside ⟨rfl, congrArg Reading.mk heq⟩
          exact ⟨lt_of_le_of_ne hbegun hne, (Int.not_le.mp hnext).le⟩

/-- The cell computed from a number of months. -/
theorem isCell_monthCell {count : Int} (hcount : 0 < count) (closed : Closed) (r : Reading) :
    (months count).IsCell closed r
      ⟨(Reading.startOfMonth (monthCell count closed r)).nanos,
        (Reading.startOfMonth (monthCell count closed r + count)).nanos⟩ := by
  have hdvd := dvd_monthCell count closed r
  refine ⟨⟨_, hdvd, rfl⟩, ⟨_, Int.dvd_add hdvd (Int.dvd_refl count), rfl⟩,
    contains_monthCell hcount closed r, ?_⟩
  rintro x ⟨k, hk, rfl⟩
  rcases le_or_le_of_dvd (Int.dvd_sub hk hdvd) with hle | hle
  · exact Or.inl (Reading.startOfMonth_mono hle)
  · exact Or.inr (Reading.startOfMonth_mono hle)

theorem startOfMonth_eq_ok {k : Int} {start : Reading} (h : startOfMonth k = .ok start) :
    Reading.startOfMonth k = start := by
  unfold startOfMonth at h
  dsimp only at h
  split at h
  · exact Except.ok.inj h
  · cases h

/-! ### Windows -/

/-- The window of an instant is the cell of its reading, taken back to instants. -/
theorem windowOf_spec {zone : Zone} {t : Int} {b : Bounds} (hp : p.Regular)
    (h : p.windowOf closed zone t = .ok b) :
    ∃ c, p.IsCell closed (zone.reading t) c ∧
      zone.instantOf ⟨c.lower⟩ = .ok b.lower ∧ zone.instantOf ⟨c.upper⟩ = .ok b.upper := by
  have hreading : ∀ {reading : Int}, zone.counterAt t = .ok reading →
      zone.reading t = ⟨reading⟩ := by
    intro reading hreading
    obtain ⟨-, hreading⟩ := Counter.require_eq_ok_iff.mp hreading
    exact congrArg Reading.mk hreading
  rcases p.isClock_or_months with ⟨span, origin, hclock⟩ | ⟨count, rfl⟩
  · rw [hclock.windowOf_eq] at h
    obtain ⟨reading, hcounter, h⟩ := bind_eq_ok_iff.mp h
    obtain ⟨c, hc, h⟩ := bind_eq_ok_iff.mp h
    obtain ⟨lower, hlower, h⟩ := bind_eq_ok_iff.mp h
    obtain ⟨upper, hupper, h⟩ := bind_eq_ok_iff.mp h
    cases h
    rw [hreading hcounter]
    exact ⟨c, isCell_of_clockCell hp hclock hc, hlower, hupper⟩
  · obtain ⟨reading, hcounter, h⟩ := bind_eq_ok_iff.mp h
    obtain ⟨start, hstart, h⟩ := bind_eq_ok_iff.mp h
    obtain ⟨lower, hlower, h⟩ := bind_eq_ok_iff.mp h
    obtain ⟨stop, hstop, h⟩ := bind_eq_ok_iff.mp h
    obtain ⟨upper, hupper, h⟩ := bind_eq_ok_iff.mp h
    cases h
    rw [hreading hcounter]
    exact ⟨_, isCell_monthCell hp closed ⟨reading⟩, startOfMonth_eq_ok hstart ▸ hlower,
      startOfMonth_eq_ok hstop ▸ hupper⟩

/-! ### Periods of durations -/

/-- What a period counts of an accepted span: units shorter than a day, days among them, weeks
alone or months alone. -/
inductive Counts (x : Span) : Period → Prop
  | fixed : x.IsFixed → x.nanos ≠ 0 → Counts x (fixed x.nanos)
  | days {nanos : Int} : ¬x.months > 0 → ¬x.IsFixed → x.clockNanos? = some nanos →
      ¬(x.days = 0 ∧ x.nanos = 0) → Counts x (days nanos)
  | weeks {nanos : Int} : ¬x.months > 0 → ¬x.IsFixed → x.clockNanos? = some nanos →
      x.days = 0 → x.nanos = 0 → Counts x (weeks nanos)
  | months : x.months > 0 → x.weeks = 0 → x.days = 0 → x.nanos = 0 → Counts x (months x.months)

theorem counts_of_ofSpan {every : String} {x : Span} (h : ofSpan every x = .ok p) :
    p.Counts x := by
  unfold ofSpan at h
  split at h
  · cases h
  · next hzero =>
      split at h
      · next hmonths =>
          split at h
          · next hrest =>
              cases h
              exact .months hmonths hrest.1 hrest.2.1 hrest.2.2
          · cases h
      · next hmonths =>
          split at h
          · next hfixed =>
              cases h
              exact .fixed hfixed fun hnone => hzero ⟨hfixed, hnone⟩
          · next hfixed =>
              split at h
              · cases h
              · next nanos hclock =>
                  cases h
                  split
                  · next hweek => exact .weeks hmonths hfixed hclock hweek.1 hweek.2
                  · next hday => exact .days hmonths hfixed hclock hday

theorem exists_counts_of_ofDuration {every : Duration} (h : ofDuration every = .ok p) :
    ∃ x, every.span = .ok x ∧ p.Counts x := by
  obtain ⟨x, hspan, h⟩ := bind_eq_ok_iff.mp h
  exact ⟨x, mapError_eq_ok_iff.mp hspan, counts_of_ofSpan (mapError_eq_ok_iff.mp h)⟩

theorem clockNanos?_eq_some {x : Span} {nanos : Int} (h : x.clockNanos? = some nanos) :
    Counter.Fits nanos ∧ nanos = (x.weeks * 7 + x.days) * nanosPerDay + x.nanos := by
  simp only [Span.clockNanos?, Span.dayCount?, Option.bind_eq_bind, Option.bind_eq_some_iff,
    Counter.fit?_eq_some_iff] at h
  obtain ⟨days, ⟨week, ⟨-, rfl⟩, -, rfl⟩, day, ⟨-, rfl⟩, hfits, rfl⟩ := h
  exact ⟨hfits, rfl⟩

/-- A span with weeks or days among its units has a length. -/
theorem clockNanos?_pos {x : Span} {nanos : Int} (hx : x.Nonneg) (hmonths : ¬x.months > 0)
    (hfixed : ¬x.IsFixed) (h : x.clockNanos? = some nanos) : 0 < nanos := by
  obtain ⟨-, rfl⟩ := clockNanos?_eq_some h
  have hnone : 0 ≤ x.months := hx .months
  have hweeks : 0 ≤ x.weeks := hx .weeks
  have hdays : 0 ≤ x.days := hx .days
  have hnanos : 0 ≤ x.nanos := hx .nanos
  simp only [Span.IsFixed, nanosPerDay] at *
  omega

/-- A span that is accepted gives a regular period. -/
theorem Counts.regular {x : Span} (h : p.Counts x) (hx : x.Nonneg) : p.Regular := by
  cases h with
  | fixed hfixed hnone =>
      have hnanos : 0 ≤ x.nanos := hx .nanos
      exact show 0 < x.nanos by omega
  | days hmonths hfixed hclock _ => exact clockNanos?_pos hx hmonths hfixed hclock
  | weeks hmonths hfixed hclock hdays hnanos =>
      refine ⟨clockNanos?_pos hx hmonths hfixed hclock, x.weeks, ?_⟩
      rw [(clockNanos?_eq_some hclock).2, hdays, hnanos]
      unfold nanosPerDay
      omega
  | months hmonths => exact hmonths

theorem regular_of_ofDuration {every : Duration} (h : ofDuration every = .ok p) : p.Regular := by
  obtain ⟨x, hspan, hcounts⟩ := exists_counts_of_ofDuration h
  exact hcounts.regular (Duration.span_nonneg hspan)

end Period

end Cadence
