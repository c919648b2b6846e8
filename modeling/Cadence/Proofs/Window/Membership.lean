import Cadence.Duration.Parser
import Cadence.Proofs.Window.Grid
import Cadence.Proofs.Zone.Clock
import Cadence.Zone.Table

/-!
# Instants and their windows

The cell of a reading holds the reading. Its window holds the instant when the
clock comes to the ends of the cell in their order around that instant: it has
come to the lower end by then, and has yet to come to the upper end. A change of
the clock within the cell can break this, and no window is disturbed where the
offset stays the same around its cell.
-/

namespace Cadence

/-- The last instant by which the clock has to have come to the lower end of a
window of `t`, and not to the upper one. -/
def Closed.mark (closed : Closed) (t : Int) : Int :=
  match closed with
  | .left => t
  | .right => t - 1

theorem Bounds.contains_iff_mark {b : Bounds} {closed : Closed} {t : Int} :
    b.Contains closed t ↔ b.lower ≤ closed.mark t ∧ ¬b.upper ≤ closed.mark t := by
  cases closed <;> simp only [Contains, Closed.mark] <;> omega

namespace Period

variable {p : Period} {closed : Closed} {zone : Zone} {t : Int} {b c : Bounds}

/-- The clock comes to the two ends of a cell in their order around an instant. -/
def EndsAround (closed : Closed) (zone : Zone) (t : Int) (c : Bounds) : Prop :=
  zone.Reached ⟨c.lower⟩ (closed.mark t) ∧ ¬zone.Reached ⟨c.upper⟩ (closed.mark t)

/-- No offset changes from a day before a cell to a day after it. -/
def SteadyAround (zone : Zone) (t : Int) (c : Bounds) : Prop :=
  ∀ s, c.lower - nanosPerDay ≤ s → s ≤ c.upper + nanosPerDay → zone.offsetAt s = zone.offsetAt t

/-- A clock that never changes is steady around every cell. -/
theorem steadyAround_of_transitions_eq_nil (h : zone.transitions = []) :
    SteadyAround zone t c := by
  intro s _ _
  rw [Zone.offsetAt_of_transitions_eq_nil h, Zone.offsetAt_of_transitions_eq_nil h]

theorem contains_iff_endsAround (hzone : zone.WellFormed)
    (hlower : zone.instantOf ⟨c.lower⟩ = .ok b.lower)
    (hupper : zone.instantOf ⟨c.upper⟩ = .ok b.upper) :
    b.Contains closed t ↔ EndsAround closed zone t c := by
  rw [Bounds.contains_iff_mark, Zone.le_iff_reached hzone hlower, Zone.le_iff_reached hzone hupper]
  rfl

/-- The window of a cell with a steady offset is the cell moved by that offset. -/
theorem bounds_eq_of_steadyAround (hzone : zone.WellFormed) (hlt : c.lower < c.upper)
    (hlower : zone.instantOf ⟨c.lower⟩ = .ok b.lower)
    (hupper : zone.instantOf ⟨c.upper⟩ = .ok b.upper) (hsteady : SteadyAround zone t c) :
    b = ⟨c.lower - zone.offsetAt t, c.upper - zone.offsetAt t⟩ := by
  have hfirst : b.lower = c.lower - zone.offsetAt t := by
    apply Zone.instantOf_eq_of_steady hzone hlower
    intro s hlo hhi
    exact hsteady s hlo (by dsimp only at hhi; omega)
  have hlast : b.upper = c.upper - zone.offsetAt t := by
    apply Zone.instantOf_eq_of_steady hzone hupper
    intro s hlo hhi
    exact hsteady s (by dsimp only at hlo; omega) hhi
  cases b
  exact congrArg₂ Bounds.mk hfirst hlast

theorem contains_of_steadyAround (hzone : zone.WellFormed)
    (hcell : p.IsCell closed (zone.reading t) c)
    (hlower : zone.instantOf ⟨c.lower⟩ = .ok b.lower)
    (hupper : zone.instantOf ⟨c.upper⟩ = .ok b.upper) (hsteady : SteadyAround zone t c) :
    b.Contains closed t := by
  rw [bounds_eq_of_steadyAround hzone hcell.contains.lower_lt_upper hlower hupper hsteady]
  have hreading := hcell.contains
  unfold Zone.reading at hreading
  cases closed <;> simp only [Bounds.Contains] at * <;> omega

/-- A window is a stretch of time that holds its instant exactly when the clock
comes to the ends of the cell in order around the instant. So it does wherever
the offset is steady. -/
theorem windowOf_contains_iff {every : Duration} (hzone : zone.WellFormed)
    (hperiod : ofDuration every = .ok p) (h : p.windowOf closed zone t = .ok b) :
    (b.lower < b.upper ∧ b.Contains closed t ↔
      ∃ c, p.IsCell closed (zone.reading t) c ∧ EndsAround closed zone t c) ∧
    ∀ c, p.IsCell closed (zone.reading t) c → SteadyAround zone t c →
      b.lower < b.upper ∧ b.Contains closed t := by
  obtain ⟨cell, hcell, hlower, hupper⟩ := windowOf_spec (regular_of_ofDuration hperiod) h
  have hordered : b.Contains closed t → b.lower < b.upper ∧ b.Contains closed t := fun hmem =>
    ⟨hmem.lower_lt_upper, hmem⟩
  refine ⟨⟨?_, ?_⟩, ?_⟩
  · rintro ⟨-, hmem⟩
    exact ⟨cell, hcell, (contains_iff_endsAround hzone hlower hupper).mp hmem⟩
  · rintro ⟨c, hc, hends⟩
    cases hcell.unique hc
    exact hordered ((contains_iff_endsAround hzone hlower hupper).mpr hends)
  · intro c hc hsteady
    cases hcell.unique hc
    exact hordered (contains_of_steadyAround hzone hcell hlower hupper hsteady)

/-- The hour with which summer time begins in London. -/
theorem windowOf_contains_iff_london :
    Zone.london.WellFormed ∧ ofDuration ⟨[⟨1, .h, by decide⟩]⟩ = .ok (fixed 3600000000000) ∧
      (fixed 3600000000000).windowOf .left .london 1679792400000000000 =
        .ok ⟨1679792400000000000, 1679796000000000000⟩ ∧
      ∃ c, (fixed 3600000000000).IsCell .left (Zone.london.reading 1679792400000000000) c ∧
        EndsAround .left .london 1679792400000000000 c := by
  have hlabel : Zone.ofLabel? (some "Europe/London") = some .london := rfl
  have hzone := Zone.wellFormed_of_ofLabel? hlabel
  have hperiod : ofDuration ⟨[⟨1, .h, by decide⟩]⟩ = .ok (fixed 3600000000000) := by rfl
  have hwindow : (fixed 3600000000000).windowOf .left .london 1679792400000000000 =
      .ok ⟨1679792400000000000, 1679796000000000000⟩ := by decide +kernel
  exact ⟨hzone, hperiod, hwindow,
    (windowOf_contains_iff hzone hperiod hwindow).1.mp (by decide)⟩

/-- At the first instant of summer time in London, the window of 90 minutes begins
only afterwards, and the window of 20 minutes that is closed on the right ends
before it begins. -/
theorem windowOf_apart_london :
    ∃ zone, Zone.ofLabel? (some "Europe/London") = some zone ∧
      (∃ every p b, Duration.parse "90m" = .ok every ∧ ofDuration every = .ok p ∧
        p.windowOf .left zone 1679792400000000000 = .ok b ∧
        ¬b.Contains .left 1679792400000000000) ∧
      ∃ every p b, Duration.parse "20m" = .ok every ∧ ofDuration every = .ok p ∧
        p.windowOf .right zone 1679792400000000000 = .ok b ∧ ¬b.lower < b.upper := by
  refine ⟨.london, rfl, ?_, ?_⟩
  · refine ⟨⟨[⟨90, .m, by decide⟩]⟩, fixed 5400000000000,
      ⟨1679794200000000000, 1679796000000000000⟩, by decide +kernel, by rfl, ?_, by decide⟩
    decide +kernel
  · refine ⟨⟨[⟨20, .m, by decide⟩]⟩, fixed 1200000000000,
      ⟨1679794800000000000, 1679792400000000000⟩, by decide +kernel, by rfl, ?_, by decide⟩
    decide +kernel

end Period

end Cadence
