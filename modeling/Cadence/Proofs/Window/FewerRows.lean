import Cadence.Proofs.Table.Selection
import Cadence.Proofs.Window.Recomputation

/-!
# Windows of fewer rows

On a clock that never changes, the rows that are left of a table are put into the
windows that they were in. Groups may be numbered anew, but a window is known by the
key of its group and by its lower end, and these stay.
-/

namespace Cadence

variable {spec : WindowSpec} {t : Table} {axis : TimeAxis} {rows : List Nat}

/-! ### Keys of windows -/

namespace Assignment

variable {a : Assignment} {key : Nat → List Cell} {n : Nat} {v w : Window}

/-- The key of a window holds the key of each of its rows. -/
theorem Groups.getD_eq (h : a.Groups key) (hw : w ∈ a.windows) {r : Nat} (hr : r ∈ w.rows) :
    a.groups.getD w.group [] = key r := by
  rw [List.getD_eq_getElem?_getD, h.key_eq w hw r hr]
  rfl

/-- No two windows have one key. -/
theorem eq_of_keyOf_eq (hpartition : a.Partitions n) (hgroups : a.Groups key)
    (hordered : a.Ordered) (hv : v ∈ a.windows) (hw : w ∈ a.windows)
    (h : a.keyOf v = a.keyOf w) : v = w := by
  obtain ⟨hkey, hlower⟩ := WindowKey.mk.inj h
  obtain ⟨r, hr⟩ := List.exists_mem_of_ne_nil _ (hpartition.nonempty v hv)
  obtain ⟨s, hs⟩ := List.exists_mem_of_ne_nil _ (hpartition.nonempty w hw)
  rw [hgroups.getD_eq hv hr, hgroups.getD_eq hw hs] at hkey
  exact hordered.eq_of_lower_eq hv hw ((hgroups.group_eq_iff v hv w hw r hr s hs).mpr hkey) hlower

end Assignment

/-! ### What selected rows bring to their windows -/

theorem Table.groupColumns_select {names : List String} {columns : List Column}
    (h : t.groupColumns names = .ok columns) :
    (t.select rows).groupColumns names = .ok (columns.map (·.select rows)) := by
  rw [groupColumns, mapM_eq_ok_iff, List.forall₂_map_right_iff]
  apply (mapM_eq_ok_iff.mp h).imp
  intro name c hc
  have hfound : t.column? name = some c := elim_eq_ok_iff.mp hc
  rw [Table.column?_select, hfound]
  rfl

theorem Assignment.keyAt_select (columns : List Column) {place : Nat} (h : place < rows.length) :
    keyAt (columns.map (·.select rows)) place = keyAt columns (rows.getD place 0) := by
  rw [keyAt, keyAt, List.map_map]
  apply List.map_congr_left
  intro c _
  exact Column.cell_select h

namespace WindowSpec

variable {shifted : List Int} {bounds : List Bounds}

theorem shifted_select (h : spec.shifted axis = .ok shifted)
    (hrows : ∀ row ∈ rows, row < axis.instants.length) :
    spec.shifted (axis.select rows) = .ok (rows.map fun row => shifted.getD row 0) := by
  rw [shifted_eq_mapM] at h ⊢
  exact mapM_getD h hrows _ _

section Unchanging

variable (hperiod : Period.ofDuration spec.every = .ok spec.period)
variable (hzone : axis.zone.WellFormed) (hfixed : axis.zone.transitions = [])
include hperiod hzone hfixed

theorem boundsFrom_eq_mapM_of_transitions_eq_nil (ts : List Int) :
    spec.boundsFrom axis.zone none ts = ts.mapM (spec.windowOf axis.zone) := by
  have hsteady : spec.Steady axis.zone ts := fun t _ c _ =>
    Period.steadyAround_of_transitions_eq_nil hfixed
  have hcoheres : spec.Coheres axis.zone ts fun _ => [] :=
    coheres_of_steady (Period.regular_of_ofDuration hperiod) hzone hsteady
  exact boundsFrom_eq_mapM (by simp) hcoheres.serves

/-- Each window of the rows that are left has the key of a window of all rows. -/
theorem assign_select {full : Assignment} (haxis : axis.instants.length = t.height)
    (hrows : ∀ row ∈ rows, row < t.height) (hfull : (spec.assign t axis).outcome = .ok full) :
    ∃ a, (spec.assign (t.select rows) (axis.select rows)).outcome = .ok a ∧
      ∀ w ∈ a.windows, ∃ v ∈ full.windows, full.keyOf v = a.keyOf w := by
  obtain ⟨columns, shifted, bounds, hcolumns, hshifted, hbounds, rfl⟩ := assign_eq_ok_iff.mp hfull
  have hlength := length_shifted hshifted
  have hplaces := Assignment.rows_plan columns haxis hshifted hbounds
  have hkept : spec.boundsFrom axis.zone none (rows.map fun row => shifted.getD row 0) =
      .ok (rows.map fun row => bounds.getD row ⟨0, 0⟩) := by
    rw [boundsFrom_eq_mapM_of_transitions_eq_nil hperiod hzone hfixed] at hbounds ⊢
    exact mapM_getD hbounds (fun row hrow => hlength.trans haxis ▸ hrows row hrow) _ _
  have hkeptColumns : (t.select rows).groupColumns spec.groupBy =
      .ok (columns.map (·.select rows)) := Table.groupColumns_select hcolumns
  have hkeptShifted := shifted_select hshifted fun row hrow => haxis ▸ hrows row hrow
  have hkeptPlaces :=
    Assignment.rows_plan (t := t.select rows) (columns.map (·.select rows)) (List.length_map _)
      hkeptShifted hkept
  refine ⟨_, assign_eq_ok_iff.mpr ⟨_, _, _, hkeptColumns, hkeptShifted, hkept, rfl⟩, ?_⟩
  intro w hw
  -- The row of all rows that gives the window its bounds lies in a window with its key.
  obtain ⟨place, hplace, hbounds⟩ := Assignment.exists_row_of_window hw
  rw [List.getElem?_map, Option.map_eq_some_iff] at hbounds
  obtain ⟨row, hrow, hbounds⟩ := hbounds
  obtain ⟨hlt, rfl⟩ := List.getElem?_eq_some_iff.mp hrow
  obtain ⟨v, hv, hmem⟩ := (Assignment.partitions_ofRows spec.label hplaces).exists_window_iff.mpr
    (hrows _ (List.getElem_mem hlt))
  obtain ⟨b, hb, hlower⟩ := Assignment.lower_eq_of_mem hv hmem
  refine ⟨v, hv, congrArg₂ WindowKey.mk ?_ ?_⟩
  · have hnamed : rows.getD place 0 = rows[place] := by simp [hlt]
    rw [(Assignment.groups_plan spec.label hplaces).getD_eq hv hmem,
      (Assignment.groups_plan spec.label hkeptPlaces).getD_eq hw hplace,
      Assignment.keyAt_select columns hlt, hnamed]
  · rw [← hlower, ← hbounds, List.getD_eq_getElem?_getD, hb]
    rfl

end Unchanging

end WindowSpec

end Cadence
