import Cadence.Proofs.Window.FewerRows
import Cadence.Proofs.Window.Tiling

/-!
# Labels of windows

A window has the bounds and the label that the first of its rows gives it, and with an
offset this row need not be the earliest one once all of them are moved. On a clock that
never changes the moved instant of that row lies in the window all the same. So does the
label, and windows that follow each other have labels that do.
-/

namespace Cadence

/-! ### Labels and bounds -/

section Bounds

variable {label : Label} {closed : Closed} {b c : Bounds} {s t : Int}

theorem Label.le_instant (h : b.Contains closed t) : b.lower ≤ label.instant b t := by
  have hlt := h.lower_lt_upper
  cases label with
  | left => exact le_rfl
  | right => exact hlt.le
  | datapoint => exact h.le_and_le.1

theorem Label.instant_le (h : b.Contains closed t) : label.instant b t ≤ b.upper := by
  have hlt := h.lower_lt_upper
  cases label with
  | left => exact hlt.le
  | right => exact le_rfl
  | datapoint => exact h.le_and_le.2

/-- The ends of two windows one after the other are at most shared, so that one of the labels
has to leave them. -/
theorem Label.instant_lt_instant (hb : b.Contains closed s) (hc : c.Contains closed t)
    (h : b.upper ≤ c.lower) : label.instant b s < label.instant c t := by
  have hltb := hb.lower_lt_upper
  have hltc := hc.lower_lt_upper
  cases label with
  | left => exact hltb.trans_le h
  | right => exact h.trans_lt hltc
  | datapoint => cases closed <;> simp only [Bounds.Contains, instant] at * <;> omega

theorem Bounds.apart_of_upper_le (closed : Closed) (h : b.upper ≤ c.lower) : b.Apart closed c := by
  rintro t ⟨hb, hc⟩
  cases closed <;> simp only [Contains] at hb hc <;> omega

end Bounds

/-- A window that begins before another one ends before it. -/
theorem Period.upper_le_of_lower_lt {p : Period} {closed : Closed} {zone : Zone} {s t : Int}
    {b c : Bounds} (hp : p.Regular) (hzone : zone.WellFormed) (hfixed : zone.transitions = [])
    (hb : p.windowOf closed zone s = .ok b) (hc : p.windowOf closed zone t = .ok c)
    (h : b.lower < c.lower) : b.upper ≤ c.lower := by
  obtain ⟨d, hcell, -, -, rfl⟩ := exists_cell_of_windowOf hp hzone hfixed hb
  obtain ⟨e, hnext, -, -, rfl⟩ := exists_cell_of_windowOf hp hzone hfixed hc
  have hle := hcell.upper_le_of_lower_lt hnext (by dsimp only at h; omega)
  dsimp only
  omega

/-! ### Windows of an assignment -/

/-- The first row of a window decides its bounds and its label. -/
theorem Assignment.exists_first_of_window {label : Label} {keys : List (List Cell)}
    {bounds : List Bounds} {shifted instants : List Int} {w : Window}
    (hw : w ∈ (ofRows label keys bounds shifted instants).windows) :
    ∃ (row : Nat) (rest : List Nat) (t : Int), w.rows = row :: rest ∧
      bounds[row]? = some w.bounds ∧ shifted[row]? = some t ∧
      w.label = label.instant w.bounds t := by
  obtain ⟨first, rest, hrows, hcollect⟩ := Window.exists_collect hw
  have hfirst : first ∈ placements keys bounds shifted instants :=
    List.mem_of_mem_filter (hrows ▸ List.mem_cons_self)
  obtain ⟨-, hbounds, hshifted, -⟩ := Placement.mem_list_iff.mp hfirst
  rw [OpenWindow.window_collect] at hcollect
  rw [hcollect]
  exact ⟨first.row, rest.map (·.row), first.shifted, rfl, hbounds, hshifted, rfl⟩

namespace WindowSpec

variable {spec : WindowSpec} {t : Table} {axis : TimeAxis} {a : Assignment} {v w : Window}
variable (hperiod : Period.ofDuration spec.every = .ok spec.period)
variable (hzone : axis.zone.WellFormed) (hfixed : axis.zone.transitions = [])
variable (h : (spec.assign t axis).outcome = .ok a)
include hperiod hzone hfixed h

/-- A window is that of an instant which it may have for its label. -/
theorem exists_instant_of_assign (hw : w ∈ a.windows) :
    ∃ s, spec.windowOf axis.zone s = .ok w.bounds ∧ w.label = spec.label.instant w.bounds s := by
  obtain ⟨columns, shifted, bounds, -, -, hbounds, rfl⟩ := assign_eq_ok_iff.mp h
  rw [boundsFrom_eq_mapM_of_transitions_eq_nil hperiod hzone hfixed] at hbounds
  obtain ⟨row, -, s, -, hrow, hs, hlabel⟩ := Assignment.exists_first_of_window hw
  obtain ⟨b, hb, hwindow⟩ := getElem?_of_mapM_eq_ok hbounds hs
  cases hrow.symm.trans hb
  exact ⟨s, hwindow, hlabel⟩

theorem label_mem_of_assign (hw : w ∈ a.windows) :
    w.bounds.lower ≤ w.label ∧ w.label ≤ w.bounds.upper := by
  obtain ⟨s, hs, hlabel⟩ := exists_instant_of_assign hperiod hzone hfixed h hw
  have hmem := Period.contains_of_windowOf (Period.regular_of_ofDuration hperiod) hzone hfixed hs
  rw [hlabel]
  exact ⟨Label.le_instant hmem, Label.instant_le hmem⟩

/-- The windows of a group come one after the other, and so do their labels. -/
theorem ascending_of_assign : a.windows.Pairwise fun v w => v.group = w.group →
    v.bounds.Apart spec.closed w.bounds ∧ v.bounds.upper ≤ w.bounds.lower ∧ v.label < w.label := by
  apply (ordered_of_assign h).imp_of_mem
  intro v w hv hw hordered hgroup
  obtain ⟨s, hs, hvlabel⟩ := exists_instant_of_assign hperiod hzone hfixed h hv
  obtain ⟨u, hu, hwlabel⟩ := exists_instant_of_assign hperiod hzone hfixed h hw
  have hp := Period.regular_of_ofDuration hperiod
  have hle := Period.upper_le_of_lower_lt hp hzone hfixed hs hu (by omega)
  refine ⟨Bounds.apart_of_upper_le _ hle, hle, ?_⟩
  rw [hvlabel, hwlabel]
  exact Label.instant_lt_instant (Period.contains_of_windowOf hp hzone hfixed hs)
    (Period.contains_of_windowOf hp hzone hfixed hu) hle

end WindowSpec

end Cadence
