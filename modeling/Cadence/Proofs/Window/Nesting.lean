import Cadence.Proofs.Window.Tiling

/-!
# Windows within windows

On a clock that never changes, windows come in the order of their instants, and the end
that belongs to a window lies in the window of each period whose boundaries are among those
of its own. So the label of a window falls back into that window, and into the same coarser
window as every instant of it.
-/

namespace Cadence

namespace Closed

/-- The label on the side on which windows are closed. -/
def label : Closed → Label
  | left => .left
  | right => .right

/-- The end that belongs to a window. -/
def edge (closed : Closed) (b : Bounds) : Int :=
  match closed with
  | left => b.lower
  | right => b.upper

theorem instant_label (closed : Closed) (b : Bounds) (first : Int) :
    closed.label.instant b first = closed.edge b := by
  cases closed <;> rfl

theorem edge_lt_edge {closed : Closed} {b c : Bounds} (hb : b.lower < b.upper)
    (hc : c.lower < c.upper) (h : b.upper ≤ c.lower) : closed.edge b < closed.edge c := by
  cases closed <;> simp only [edge] <;> omega

/-- The end of a window lies in every window around it. -/
theorem contains_edge {closed : Closed} {b d : Bounds} (hb : b.lower < b.upper)
    (hlower : d.lower ≤ b.lower) (hupper : b.upper ≤ d.upper) :
    d.Contains closed (closed.edge b) := by
  cases closed <;> simp only [edge, Bounds.Contains] <;> omega

end Closed

namespace Period

variable {p q : Period} {closed : Closed} {zone : Zone} {s t u : Int} {b c d : Bounds}

/-- All boundaries of the coarser period `q` are boundaries of `p`. -/
def Refines (p q : Period) : Prop := ∀ x, q.IsBoundary x → p.IsBoundary x

theorem refines_refl (p : Period) : p.Refines p := fun _ h => h

/-- The cell of a reading lies within its cell of a coarser period. -/
theorem IsCell.within {r : Reading} (hrefines : p.Refines q) (h : p.IsCell closed r c)
    (hd : q.IsCell closed r d) : d.lower ≤ c.lower ∧ c.upper ≤ d.upper := by
  have hc := h.contains
  have hd' := hd.contains
  have hlower := h.gapless _ (hrefines _ hd.lower)
  have hupper := h.gapless _ (hrefines _ hd.upper)
  cases closed <;> simp only [Bounds.Contains] at hc hd' hlower hupper <;> omega

section Unchanging

variable (hp : p.Regular) (hzone : zone.WellFormed) (hfixed : zone.transitions = [])
include hp hzone hfixed

theorem lower_lt_upper_of_windowOf (h : p.windowOf closed zone t = .ok b) : b.lower < b.upper :=
  (contains_of_windowOf hp hzone hfixed h).lower_lt_upper

/-- The window of a later instant is the same or comes later. -/
theorem eq_or_le_of_windowOf (hle : t ≤ u) (hb : p.windowOf closed zone t = .ok b)
    (hc : p.windowOf closed zone u = .ok c) : b = c ∨ b.upper ≤ c.lower := by
  obtain ⟨e, hcell, -, -, rfl⟩ := exists_cell_of_windowOf hp hzone hfixed hb
  obtain ⟨f, hnext, -, -, rfl⟩ := exists_cell_of_windowOf hp hzone hfixed hc
  rcases lt_trichotomy e.lower f.lower with hlt | heq | hlt
  · have := hcell.upper_le_of_lower_lt hnext hlt
    exact .inr (by dsimp only; omega)
  · exact .inl (by rw [hcell.eq_of_lower_eq hnext heq])
  · have hbefore := hnext.upper_le_of_lower_lt hcell hlt
    have he := hcell.contains
    have hf := hnext.contains
    cases closed <;> simp only [Bounds.Contains] at he hf <;> omega

theorem eq_of_lower_eq_of_windowOf (hb : p.windowOf closed zone t = .ok b)
    (hc : p.windowOf closed zone u = .ok c) (h : b.lower = c.lower) : b = c := by
  obtain ⟨e, hcell, -, -, rfl⟩ := exists_cell_of_windowOf hp hzone hfixed hb
  obtain ⟨f, hnext, -, -, rfl⟩ := exists_cell_of_windowOf hp hzone hfixed hc
  rw [hcell.eq_of_lower_eq hnext (by dsimp only at h; omega)]

/-- The end of a window has the same coarser window as the instants of the window. -/
theorem windowOf_edge (hq : q.Regular) (hrefines : p.Refines q)
    (hb : p.windowOf closed zone t = .ok b) (hd : q.windowOf closed zone t = .ok d) :
    q.windowOf closed zone (closed.edge b) = .ok d := by
  have hlt := lower_lt_upper_of_windowOf hp hzone hfixed hb
  apply windowOf_of_contains hq hzone hfixed hd
  obtain ⟨e, hcell, -, -, rfl⟩ := exists_cell_of_windowOf hp hzone hfixed hb
  obtain ⟨f, haround, -, -, rfl⟩ := exists_cell_of_windowOf hq hzone hfixed hd
  obtain ⟨hlower, hupper⟩ := hcell.within hrefines haround
  exact Closed.contains_edge hlt (by dsimp only; omega) (by dsimp only; omega)

end Unchanging

end Period

end Cadence
