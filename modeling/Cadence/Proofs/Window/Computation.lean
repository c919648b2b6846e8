import Cadence.Proofs.Window.Grid
import Cadence.Proofs.Zone.Clock

/-!
# When a window is computed

Every reading lies in a cell. The window of an instant is computed exactly when
counters can hold both ends of the cell of its reading and both have instants;
these are the ends of the window. On a clock that never changes, the ends have
instants wherever counters can hold them, and counters can hold the time between.
-/

namespace Cadence

/-- Counters can hold both ends. -/
def Bounds.Fits (b : Bounds) : Prop := Counter.Fits b.lower ∧ Counter.Fits b.upper

theorem Bounds.Fits.of_contains {b : Bounds} {closed : Closed} {x : Int} (h : b.Fits)
    (hmem : b.Contains closed x) : Counter.Fits x :=
  ⟨h.1.1.trans hmem.le_and_le.1, hmem.le_and_le.2.trans h.2.2⟩

/-- A reading that a counter can hold lies in a supported year. -/
theorem Reading.supported_of_fits {r : Reading} (h : Counter.Fits r.nanos) : r.Supported := by
  apply Zone.supported_of_near h
  · unfold nanosPerDay
    omega
  · unfold nanosPerDay
    omega

namespace Zone

variable {z : Zone} {r : Reading} {i : Int}

/-- On a clock that never changes, the way back subtracts the offset. -/
theorem instantOf_eq_ok_iff_of_transitions_eq_nil (h : z.WellFormed) (hfixed : z.transitions = []) :
    z.instantOf r = .ok i ↔ Counter.Fits i ∧ i = r.nanos - z.initial := by
  constructor
  · intro hi
    refine ⟨(instantOf_spec h hi).1, instantOf_eq_of_steady h hi ?_⟩
    intro s _ _
    exact offsetAt_of_transitions_eq_nil hfixed s
  · rintro ⟨hfits, rfl⟩
    have hearliest : z.earliest? r = some (r.nanos - z.initial) := by
      rw [earliest?, hfixed]
      rfl
    have hsupported : Reading.Supported ⟨r.nanos - z.initial⟩ := Reading.supported_of_fits hfits
    rw [instantOf, supported?, hearliest, Option.filter_some,
      if_pos (decide_eq_true hsupported)]
    exact Counter.require_eq_ok_iff.mpr ⟨hfits, rfl⟩

end Zone

namespace Period

variable {p : Period} {closed : Closed} {r : Reading} {zone : Zone} {t span origin : Int}
  {b c : Bounds}

/-! ### Every reading has a cell -/

/-- The stretch of one length that holds a reading, counted from an origin. -/
theorem exists_stretch (hspan : 0 < span) (origin : Int) (closed : Closed)
    (reading : Int) : ∃ c : Bounds, span ∣ c.lower - origin ∧ c.upper = c.lower + span ∧
      c.Contains closed reading := by
  obtain ⟨start, rest, hstart, hlo, hhi⟩ : ∃ start rest, start = reading - rest ∧
      0 ≤ rest ∧ rest < span ∧ span ∣ start - origin := by
    exact ⟨_, (reading - origin) % span, rfl, Int.emod_nonneg _ hspan.ne',
      Int.emod_lt_of_pos _ hspan, dvd_start span origin reading⟩
  obtain ⟨hlt, hdvd⟩ := hhi
  by_cases hat : closed = .right ∧ start = reading
  · refine ⟨⟨start - span, start⟩, ?_, by dsimp only; omega, ?_⟩
    · rw [show start - span - origin = start - origin - span by omega]
      exact Int.dvd_sub hdvd (Int.dvd_refl span)
    · rw [hat.1]
      exact ⟨by dsimp only; omega, by dsimp only; omega⟩
  · refine ⟨⟨start, start + span⟩, hdvd, rfl, ?_⟩
    cases closed with
    | left => exact ⟨by dsimp only; omega, by dsimp only; omega⟩
    | right =>
        have hne : start ≠ reading := fun heq => hat ⟨rfl, heq⟩
        exact ⟨by dsimp only; omega, by dsimp only; omega⟩

theorem exists_isCell (hp : p.Regular) (closed : Closed) (r : Reading) :
    ∃ c, p.IsCell closed r c := by
  rcases p.isClock_or_months with ⟨span, origin, hclock⟩ | ⟨count, rfl⟩
  · obtain ⟨c, hlower, hlength, hmem⟩ := exists_stretch (hclock.pos hp) origin closed r.nanos
    exact ⟨c, isCell_of_dvd hclock hlower hlength hmem⟩
  · exact ⟨_, isCell_monthCell hp closed r⟩

/-! ### The window of a cell -/

/-- A cell of a grid of one length is one length long. -/
theorem IsCell.upper_eq (hp : p.Regular) (hclock : p.IsClock span origin)
    (h : p.IsCell closed r c) : c.upper = c.lower + span := by
  obtain ⟨c', hlower, hlength, hmem⟩ := exists_stretch (hclock.pos hp) origin closed r.nanos
  cases h.unique (isCell_of_dvd hclock hlower hlength hmem)
  exact hlength

/-- A reading in a cell between counters is not too far from the origin for counters. -/
theorem IsCell.fits_distance (hp : p.Regular) (hclock : p.IsClock span origin)
    (h : p.IsCell closed r c) (hfits : c.Fits) : Counter.Fits (r.nanos - origin) := by
  have hreading := hfits.of_contains h.contains
  cases hclock with
  | fixed | days => rwa [Int.sub_zero]
  | weeks =>
      -- The last Monday that a counter can hold comes more than three days before its end.
      obtain ⟨k, hk⟩ := Int.dvd_trans hp.2 h.upper
      have hle := h.contains.le_and_le.2
      have hlast := hfits.2
      simp only [mondayOrigin, Counter.Fits, Counter.least, Counter.greatest, nanosPerDay] at *
      omega

/-- The window of a cell between counters, if both ends have instants. -/
theorem clockWindow_eq_ok (hp : p.Regular) (hclock : p.IsClock span origin)
    (hcell : p.IsCell closed (zone.reading t) c) (hfits : c.Fits)
    (hlower : zone.instantOf ⟨c.lower⟩ = .ok b.lower)
    (hupper : zone.instantOf ⟨c.upper⟩ = .ok b.upper) :
    clockWindow span origin closed zone t = .ok b := by
  have hcounter : zone.counterAt t = .ok (zone.reading t).nanos :=
    require_of_fits (hfits.of_contains hcell.contains)
  have hcomputed : clockCell span origin closed (zone.reading t).nanos = .ok c :=
    clockCell_eq_ok ((hclock.isBoundary_iff _).mp hcell.lower) (hcell.upper_eq hp hclock)
      hcell.contains hfits.1 hfits.2 (hcell.fits_distance hp hclock hfits)
  have hbetween : between zone ⟨c.lower⟩ ⟨c.upper⟩ = .ok b :=
    bind_eq_ok_iff.mpr ⟨_, hlower, bind_eq_ok_iff.mpr ⟨_, hupper, rfl⟩⟩
  exact bind_eq_ok_iff.mpr ⟨_, hcounter, bind_eq_ok_iff.mpr ⟨c, hcomputed, hbetween⟩⟩

/-- A month begins in a supported year if a counter can hold its beginning. -/
theorem startOfMonth_eq_ok_of_fits {k : Int} (h : Counter.Fits (Reading.startOfMonth k).nanos) :
    startOfMonth k = .ok (Reading.startOfMonth k) := by
  unfold startOfMonth
  dsimp only
  rw [if_pos (Reading.supported_of_fits h)]

theorem monthWindow_eq_ok {count : Int} (hcount : 0 < count)
    (hcell : (months count).IsCell closed (zone.reading t) c) (hfits : c.Fits)
    (hlower : zone.instantOf ⟨c.lower⟩ = .ok b.lower)
    (hupper : zone.instantOf ⟨c.upper⟩ = .ok b.upper) :
    monthWindow count closed zone t = .ok b := by
  have hcounter : zone.counterAt t = .ok (zone.reading t).nanos :=
    require_of_fits (hfits.of_contains hcell.contains)
  cases hcell.unique (isCell_monthCell hcount closed (zone.reading t))
  apply bind_eq_ok_iff.mpr ⟨_, hcounter, _⟩
  apply bind_eq_ok_iff.mpr ⟨_, startOfMonth_eq_ok_of_fits hfits.1, _⟩
  apply bind_eq_ok_iff.mpr ⟨_, hlower, _⟩
  apply bind_eq_ok_iff.mpr ⟨_, startOfMonth_eq_ok_of_fits hfits.2, _⟩
  exact bind_eq_ok_iff.mpr ⟨_, hupper, rfl⟩

/-- Counters can hold the cell of a window that is computed. -/
theorem fits_of_windowOf (hp : p.Regular) (hzone : zone.WellFormed)
    (hcell : p.IsCell closed (zone.reading t) c) (h : p.windowOf closed zone t = .ok b) :
    c.Fits := by
  rcases p.isClock_or_months with ⟨span, origin, hclock⟩ | ⟨count, rfl⟩
  · rw [hclock.windowOf_eq] at h
    obtain ⟨reading, hcounter, h⟩ := bind_eq_ok_iff.mp h
    obtain ⟨c', hc', h⟩ := bind_eq_ok_iff.mp h
    obtain ⟨-, hreading⟩ := Counter.require_eq_ok_iff.mp hcounter
    rw [← hreading] at hc'
    cases (isCell_of_clockCell hp hclock hc').unique hcell
    exact (clockCell_spec (hclock.pos hp) hc').2
  · -- No month begins within a day of the ends of the counters, where its instant may lie.
    obtain ⟨c', hcell', hlower, hupper⟩ := windowOf_spec hp h
    cases hcell'.unique hcell
    have hfits : ∀ {x i : Int}, (months count).IsBoundary ⟨x⟩ → zone.instantOf ⟨x⟩ = .ok i →
        Counter.Fits x := by
      rintro x i ⟨k, -, hx⟩ hi
      obtain ⟨hi, hlo, hhi⟩ := Zone.instantOf_near hzone hi
      have hx : x = (Reading.startOfMonth k).nanos := congrArg Reading.nanos hx
      dsimp only at hlo hhi
      rw [hx] at hlo hhi ⊢
      exact Reading.fits_startOfMonth (by have := hi.1; omega) (by have := hi.2; omega)
    exact ⟨hfits hcell.lower hlower, hfits hcell.upper hupper⟩

/-- The window of an instant is computed exactly when counters can hold the cell of
its reading and its two ends have instants, which are the ends of the window. -/
theorem windowOf_eq_ok_iff (hp : p.Regular) (hzone : zone.WellFormed)
    (hcell : p.IsCell closed (zone.reading t) c) :
    p.windowOf closed zone t = .ok b ↔
      c.Fits ∧ zone.instantOf ⟨c.lower⟩ = .ok b.lower ∧ zone.instantOf ⟨c.upper⟩ = .ok b.upper := by
  constructor
  · intro h
    obtain ⟨c', hcell', hends⟩ := windowOf_spec hp h
    cases hcell'.unique hcell
    exact ⟨fits_of_windowOf hp hzone hcell h, hends⟩
  · rintro ⟨hfits, hlower, hupper⟩
    rcases p.isClock_or_months with ⟨span, origin, hclock⟩ | ⟨count, rfl⟩
    · rw [hclock.windowOf_eq]
      exact clockWindow_eq_ok hp hclock hcell hfits hlower hupper
    · exact monthWindow_eq_ok hp hcell hfits hlower hupper

/-- On a clock that never changes, a window is its cell moved by the offset, and it is
computed exactly when counters can hold both. -/
theorem windowOf_eq_ok_iff_of_transitions_eq_nil (hp : p.Regular) (hzone : zone.WellFormed)
    (hfixed : zone.transitions = []) (hcell : p.IsCell closed (zone.reading t) c) :
    p.windowOf closed zone t = .ok b ↔
      c.Fits ∧ b.Fits ∧ b = ⟨c.lower - zone.initial, c.upper - zone.initial⟩ := by
  rw [windowOf_eq_ok_iff hp hzone hcell,
    Zone.instantOf_eq_ok_iff_of_transitions_eq_nil hzone hfixed,
    Zone.instantOf_eq_ok_iff_of_transitions_eq_nil hzone hfixed]
  constructor
  · rintro ⟨hfits, ⟨hfirst, hlower⟩, hlast, hupper⟩
    refine ⟨hfits, ⟨hfirst, hlast⟩, ?_⟩
    cases b
    exact congrArg₂ Bounds.mk hlower hupper
  · rintro ⟨hfits, ⟨hfirst, hlast⟩, rfl⟩
    exact ⟨hfits, ⟨hfirst, rfl⟩, hlast, rfl⟩

/-! ### The length of a window -/

/-- Counters can hold the length of the cells, where they have one. -/
def Measured : Period → Prop
  | fixed n | days n | weeks n => Counter.Fits n
  | months _ => True

theorem measured_of_ofDuration {every : Duration} (h : ofDuration every = .ok p) : p.Measured := by
  obtain ⟨x, hspan, hcounts⟩ := exists_counts_of_ofDuration h
  cases hcounts with
  | fixed => exact Duration.span_fits hspan .nanos
  | days _ _ hclock | weeks _ _ hclock => exact (clockNanos?_eq_some hclock).1
  | months => trivial

theorem IsClock.fits (h : p.IsClock span origin) (hlength : p.Measured) : Counter.Fits span := by
  cases h <;> exact hlength

/-- Counters can hold the length of a cell whose ends they can hold. -/
theorem IsCell.fits_length (hp : p.Regular) (hlength : p.Measured) (h : p.IsCell closed r c)
    (hfits : c.Fits) : Counter.Fits (c.upper - c.lower) := by
  rcases p.isClock_or_months with ⟨span, origin, hclock⟩ | ⟨count, rfl⟩
  · rw [h.upper_eq hp hclock, show c.lower + span - c.lower = span by omega]
    exact hclock.fits hlength
  · -- January 1970 begins a cell, so that no cell has it in its midst.
    have hzero : (Reading.startOfMonth 0).nanos = 0 := by decide
    have hepoch := h.gapless (Reading.startOfMonth 0) ⟨0, Int.dvd_zero count, rfl⟩
    obtain ⟨k, -, hk⟩ := h.lower
    have hdays : c.lower = (Reading.startOfMonth k).nanos := congrArg Reading.nanos hk
    have hlt := h.contains.lower_lt_upper
    obtain ⟨⟨hlo, -⟩, -, hhi⟩ := hfits
    rw [hzero] at hepoch
    simp only [Reading.startOfMonth, Reading.midnight, nanosPerDay] at hdays
    simp only [Counter.Fits, Counter.least, Counter.greatest] at *
    omega

/-- On a clock that never changes, counters can hold the time between the ends of a window. -/
theorem fits_elapsed {every : Duration} (hzone : zone.WellFormed) (hfixed : zone.transitions = [])
    (hperiod : ofDuration every = .ok p) (h : p.windowOf closed zone t = .ok b) :
    Counter.Fits b.elapsed := by
  have hp := regular_of_ofDuration hperiod
  obtain ⟨c, hcell⟩ := exists_isCell hp closed (zone.reading t)
  obtain ⟨hfits, -, rfl⟩ :=
    (windowOf_eq_ok_iff_of_transitions_eq_nil hp hzone hfixed hcell).mp h
  have helapsed : c.upper - zone.initial - (c.lower - zone.initial) = c.upper - c.lower := by omega
  rw [Bounds.elapsed, helapsed]
  exact hcell.fits_length hp (measured_of_ofDuration hperiod) hfits

end Period

end Cadence
