import Cadence.Proofs.Duration.Span
import Cadence.Proofs.Outcome
import Cadence.Proofs.Window.Nesting
import Mathlib.Tactic.Ring

/-!
# Days and shorter units

On a clock that never changes, days are as long as each other. A duration made of days and
shorter units then has a length, and the boundaries of its windows are the multiples of that
length.
-/

namespace Cadence

/-- The length of a unit of a day or less, on a clock that never changes. -/
def TimeUnit.dayNanos? : TimeUnit → Option Int
  | day => some nanosPerDay
  | u => u.nanos?

theorem TimeUnit.dayNanos?_eq_some_iff {u : TimeUnit} {n : Int} : u.dayNanos? = some n ↔
    u.field = .days ∧ u.factor * nanosPerDay = n ∨ u.field = .nanos ∧ u.factor = n := by
  cases u <;> simp [dayNanos?, nanos?, field, factor]

/-- The nanoseconds that days and nanoseconds last on a clock that never changes. -/
def Span.dayNanos (x : Span) : Int := x.days * nanosPerDay + x.nanos

namespace Duration

/-- The length of a duration made of days and shorter units, on a clock that never changes. -/
def dayNanos? (d : Duration) : Option Int :=
  (d.parts.mapM fun p : Part => p.unit.dayNanos?.map ((p.count : Int) * ·)).map List.sum

/-- Both durations are made of days and shorter units, and the second one is a multiple of the
first one. -/
def Divides (d e : Duration) : Prop :=
  ∃ n m, d.dayNanos? = some n ∧ e.dayNanos? = some m ∧ n ∣ m

theorem Part.dayNanos_addTo? {x y : Span} {p : Part} {n : Int} (hn : p.unit.dayNanos? = some n)
    (h : p.addTo? x = some y) :
    y.months = x.months ∧ y.weeks = x.weeks ∧ y.dayNanos = x.dayNanos + p.count * n := by
  rw [addTo?_eq_some h]
  rcases TimeUnit.dayNanos?_eq_some_iff.mp hn with ⟨hfield, rfl⟩ | ⟨hfield, rfl⟩
  · rw [hfield]
    refine ⟨rfl, rfl, ?_⟩
    simp only [Span.dayNanos, Span.get, Span.set]
    ring
  · rw [hfield]
    refine ⟨rfl, rfl, ?_⟩
    simp only [Span.dayNanos, Span.get, Span.set]
    ring

/-- The span of such a duration has only days and nanoseconds, and lasts as long. -/
theorem dayNanos_span {d : Duration} {x : Span} {n : Int} (hn : d.dayNanos? = some n)
    (h : d.span = .ok x) : x.months = 0 ∧ x.weeks = 0 ∧ x.dayNanos = n := by
  have hparts : ∀ {parts : List Part} {x y : Span} {lengths : List Int},
      parts.mapM (fun p : Part => p.unit.dayNanos?.map ((p.count : Int) * ·)) = some lengths →
      parts.foldlM Part.addTo? x = some y →
      y.months = x.months ∧ y.weeks = x.weeks ∧ y.dayNanos = x.dayNanos + lengths.sum := by
    intro parts x y lengths hlengths h
    rw [mapM_eq_some_iff] at hlengths
    induction hlengths generalizing x with
    | nil =>
        cases h
        exact ⟨rfl, rfl, (Int.add_zero _).symm⟩
    | cons hp _ ih =>
        obtain ⟨length, hlength, rfl⟩ := Option.map_eq_some_iff.mp hp
        rw [List.foldlM_cons, Option.bind_eq_bind, Option.bind_eq_some_iff] at h
        obtain ⟨next, hnext, h⟩ := h
        obtain ⟨hmonths, hweeks, hdays⟩ := Part.dayNanos_addTo? hlength hnext
        obtain ⟨hmonths', hweeks', hdays'⟩ := ih h
        refine ⟨hmonths'.trans hmonths, hweeks'.trans hweeks, ?_⟩
        rw [hdays', hdays, List.sum_cons, Int.add_assoc]
  obtain ⟨lengths, hlengths, rfl⟩ := Option.map_eq_some_iff.mp hn
  obtain ⟨hmonths, hweeks, hdays⟩ := hparts hlengths (elim_eq_ok_iff.mp h)
  exact ⟨hmonths, hweeks, hdays.trans (Int.zero_add _)⟩

end Duration

namespace Period

variable {every coarse : Duration} {p q : Period} {n : Int}

/-- Windows of days and shorter units are counted by their length. -/
theorem eq_or_eq_of_dayNanos (hn : every.dayNanos? = some n) (h : ofDuration every = .ok p) :
    p = .fixed n ∨ p = .days n := by
  obtain ⟨x, hspan, hcounts⟩ := exists_counts_of_ofDuration h
  obtain ⟨hmonths, hweeks, rfl⟩ := Duration.dayNanos_span hn hspan
  cases hcounts with
  | fixed hfixed =>
      rw [Span.dayNanos, hfixed.2.2, Int.zero_mul, Int.zero_add]
      exact .inl rfl
  | days _ _ hclock =>
      rw [(clockNanos?_eq_some hclock).2, hweeks, Int.zero_mul, Int.zero_add, Span.dayNanos]
      exact .inr rfl
  | weeks _ hfixed _ hdays => exact absurd ⟨hmonths, hweeks, hdays⟩ hfixed
  | months hsome => exact absurd hmonths (by omega)

/-- Windows of days and shorter units lie within windows of a multiple of their length. -/
theorem refines_of_divides (hdivides : every.Divides coarse) (hp : ofDuration every = .ok p)
    (hq : ofDuration coarse = .ok q) : p.Refines q := by
  obtain ⟨n, m, hn, hm, hdvd⟩ := hdivides
  intro x hx
  rcases eq_or_eq_of_dayNanos hn hp with rfl | rfl <;>
    rcases eq_or_eq_of_dayNanos hm hq with rfl | rfl <;> exact Int.dvd_trans hdvd hx

end Period

end Cadence
