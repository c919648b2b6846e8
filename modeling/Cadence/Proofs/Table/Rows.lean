import Cadence.Partiality
import Cadence.Proofs.Table.Selection
import Cadence.Table.Concat
import Mathlib.Data.List.Perm.Basic

/-!
# Tables as rows

A table is known by its schema and its rows. Tables of one schema that are joined end to
end have their rows one after the other, and a table with the same rows in another order is
a selection of them.
-/

namespace Cadence

/-- Rows of one width are known by their cells at each place. -/
theorem eq_of_map_getD_eq {xs ys : List (List Cell)} {n : Nat} (hxs : ∀ x ∈ xs, x.length = n)
    (hys : ∀ y ∈ ys, y.length = n) (hlength : xs.length = ys.length)
    (h : ∀ j < n, xs.map (·.getD j .null) = ys.map (·.getD j .null)) : xs = ys := by
  apply List.ext_getElem hlength
  intro i hx hy
  have hxi : xs[i].length = n := hxs _ (List.getElem_mem hx)
  have hyi : ys[i].length = n := hys _ (List.getElem_mem hy)
  apply List.ext_getElem (hxi.trans hyi.symm)
  intro j hxj hyj
  have hcells := congrArg (fun cells => cells[i]?) (h j (hxi ▸ hxj))
  simpa [hx, hy, hxj, hyj] using hcells

namespace Column

/-- Columns of one field can be joined when each of them holds no null that it must not. -/
theorem exists_append? {c : Column} {others : List Column}
    (hfields : ∀ d ∈ others, d.toField = c.toField) (hc : c.nullable = true ∨ c.nullCount = 0)
    (hothers : ∀ d ∈ others, d.nullable = true ∨ d.nullCount = 0) :
    ∃ e, c.append? others = some e ∧ e.toField = c.toField ∧
      e.cells = c.cells ++ others.flatMap (·.cells) := by
  have htypes : ∀ d ∈ others, d.type = c.type := fun d hd => congrArg Field.type (hfields d hd)
  refine ⟨c.append others htypes, ?_, rfl, rfl⟩
  rw [append?, dif_pos htypes]
  apply if_pos
  by_cases hnullable : c.nullable = true
  · exact .inl hnullable
  · have hnone : ∀ d ∈ others, d.nullCount = 0 := by
      intro d hd
      apply (hothers d hd).resolve_left
      rwa [congrArg Field.nullable (hfields d hd)]
    refine .inr (nullCount_eq_zero_iff.mpr ?_)
    rcases nullCount_eq_zero_iff.mp (hc.resolve_left hnullable) with hnothing | hvalues
    · exact .inl hnothing
    · by_cases hnothing : c.type = .nothing
      · exact .inl hnothing
      · refine .inr fun hnull => ?_
        rcases List.mem_append.mp hnull with hnull | hnull
        · exact hvalues hnull
        · obtain ⟨d, hd, hnull⟩ := List.mem_flatMap.mp hnull
          rcases nullCount_eq_zero_iff.mp (hnone d hd) with hd' | hd'
          · exact hnothing ((htypes d hd).symm.trans hd')
          · exact hd' hnull

end Column

namespace Table

variable {t u : Table} {tables later : List Table} {c : Column} {i j : Nat}

/-- The rows of a table. -/
def rows (t : Table) : List (List Cell) := (List.range t.height).map t.row

theorem length_rows (t : Table) : t.rows.length = t.height := by
  rw [rows, List.length_map, List.length_range]

theorem length_of_mem_rows {row : List Cell} (h : row ∈ t.rows) : row.length = t.schema.length := by
  obtain ⟨i, -, rfl⟩ := List.mem_map.mp h
  rw [row, List.length_map, schema, List.length_map]

/-- A column holds the cells of the rows at its place. -/
theorem map_getD_rows (h : t.columns[j]? = some c) : t.rows.map (·.getD j .null) = c.cells := by
  have hcells := c.map_cell_range
  rw [t.uniform c (List.mem_of_getElem? h)] at hcells
  rw [rows, List.map_map, ← hcells]
  apply List.map_congr_left
  intro i _
  simp [row, h]

theorem exists_column_of_schema_eq (hschema : u.schema = t.schema) (h : t.columns[j]? = some c) :
    ∃ d, u.columns[j]? = some d ∧ d.toField = c.toField := by
  have hfield : (u.columns[j]?).map (·.toField) = some c.toField := by
    rw [← List.getElem?_map]
    change u.schema[j]? = some c.toField
    rw [hschema, schema, List.getElem?_map, h]
    rfl
  exact Option.map_eq_some_iff.mp hfield

/-- A table is known by its schema and its rows. -/
theorem eq_of_rows_eq (hschema : t.schema = u.schema) (hrows : t.rows = u.rows) : t = u := by
  apply eq_of_columns_eq
  · rw [← length_rows, ← length_rows, hrows]
  · have hlength : t.columns.length = u.columns.length := by
      simpa [schema] using congrArg List.length hschema
    apply List.ext_getElem hlength
    intro j ht hu
    have htc := List.getElem?_eq_getElem ht
    obtain ⟨d, hd, hfield⟩ := exists_column_of_schema_eq hschema.symm htc
    have hcolumn : u.columns[j] = d := Option.some.inj ((List.getElem?_eq_getElem hu).symm.trans hd)
    rw [hcolumn]
    apply Column.eq_of_cells_eq hfield.symm
    rw [← map_getD_rows htc, ← map_getD_rows hd, hrows]

/-! ### Selected rows -/

theorem rows_select (t : Table) (places : List Nat) :
    (t.select places).rows = places.map t.row := by
  rw [rows, height_select]
  conv_rhs => rw [← map_getD_range places 0, List.map_map]
  apply List.map_congr_left
  intro i hi
  change (t.columns.map (·.select places)).map (·.cell i) = t.columns.map (·.cell (places.getD i 0))
  rw [List.map_map]
  apply List.map_congr_left
  intro c _
  exact Column.cell_select (List.mem_range.mp hi)

/-- A table with the same rows in another order selects them. -/
theorem exists_select_of_perm (hschema : u.schema = t.schema) (h : u.rows.Perm t.rows) :
    ∃ places, places.Perm (List.range t.height) ∧ t.select places = u := by
  have hnamed : t.rows.Forall₂ (fun row i => row = t.row i) (List.range t.height) := by
    rw [rows, List.forall₂_map_left_iff, List.forall₂_same]
    exact fun _ _ => rfl
  obtain ⟨places, hplaces, hperm⟩ := List.perm_comp_forall₂ h hnamed
  refine ⟨places, hperm, eq_of_rows_eq ?_ ?_⟩
  · rw [schema_select, hschema]
  · rw [rows_select, ← List.forall₂_eq_eq_eq, List.forall₂_map_left_iff]
    exact hplaces.flip.imp fun _ _ hrow => hrow.symm

/-! ### Rows end to end -/

/-- The columns at one place of tables of one schema, end to end. -/
theorem exists_append?_of_schema_eq (ht : t.Admissible)
    (hlater : ∀ u ∈ later, u.schema = t.schema ∧ u.Admissible) (h : t.columns[j]? = some c) :
    ∃ e, ((later.mapM fun u : Table => u.columns[j]?) >>= fun others => c.append? others) = some e ∧
      e.toField = c.toField ∧
      e.cells = ((t :: later).flatMap rows).map (·.getD j .null) := by
  have hfound : ∀ u ∈ later, ∃ d, u.columns[j]? = some d ∧ d.toField = c.toField ∧
      (d.nullable = true ∨ d.nullCount = 0) ∧ d.cells = u.rows.map (·.getD j .null) := by
    intro u hu
    obtain ⟨hschema, hadmissible⟩ := hlater u hu
    obtain ⟨d, hd, hfield⟩ := exists_column_of_schema_eq hschema h
    exact ⟨d, hd, hfield, hadmissible d (List.mem_of_getElem? hd), (map_getD_rows hd).symm⟩
  obtain ⟨others, hothers⟩ := exists_forall₂ hfound
  have hcells : others.flatMap (·.cells) = later.flatMap fun u => u.rows.map (·.getD j .null) := by
    rw [List.flatMap_def, List.flatMap_def]
    apply congrArg List.flatten
    symm
    rw [← List.forall₂_eq_eq_eq, List.forall₂_map_left_iff, List.forall₂_map_right_iff]
    exact hothers.imp fun _ _ hd => hd.2.2.2.symm
  have hfields : ∀ d ∈ others, d.toField = c.toField ∧ (d.nullable = true ∨ d.nullCount = 0) := by
    intro d hd
    obtain ⟨u, -, hu⟩ := exists_of_forall₂_right hothers hd
    exact ⟨hu.2.1, hu.2.2.1⟩
  obtain ⟨e, he, hfield, hjoined⟩ := Column.exists_append? (fun d hd => (hfields d hd).1)
    (ht c (List.mem_of_getElem? h)) fun d hd => (hfields d hd).2
  refine ⟨e, ?_, hfield, ?_⟩
  · rw [mapM_eq_some_iff.mpr (hothers.imp fun _ _ hd => hd.1)]
    exact he
  · rw [hjoined, hcells, ← map_getD_rows h, List.map_flatMap, List.flatMap_cons]

theorem foldl_height (tables : List Table) (start : Nat) :
    tables.foldl (fun n t => n + t.height) start = start + (tables.flatMap rows).length := by
  induction tables generalizing start with
  | nil => rfl
  | cons t tables ih =>
      rw [List.foldl_cons, ih, List.flatMap_cons, List.length_append, length_rows, Nat.add_assoc]

/-- The joined columns make a table with the rows of all tables. -/
theorem exists_appendColumns? (ht : t.Admissible)
    (hlater : ∀ u ∈ later, u.schema = t.schema ∧ u.Admissible) :
    ∃ joined, ((t.appendColumns? later).bind
        (ofHeight? ((t :: later).flatMap rows).length)) = some joined ∧
      joined.schema = t.schema ∧ joined.rows = (t :: later).flatMap rows := by
  obtain ⟨columns, hcolumns⟩ := exists_forall₂ fun x (hx : x ∈ t.columns.zipIdx) =>
    exists_append?_of_schema_eq ht hlater (List.mem_zipIdx_iff_getElem?.mp hx)
  have hjoined : ∀ {j : Nat} {c : Column}, t.columns[j]? = some c → ∃ e, columns[j]? = some e ∧
      e.toField = c.toField ∧ e.cells = ((t :: later).flatMap rows).map (·.getD j .null) := by
    intro j c hc
    have hplaced : t.columns.zipIdx[j]? = some (c, j) := by simp [hc]
    obtain ⟨e, he, -, hfield, hcells⟩ := getElem?_of_forall₂ hcolumns hplaced
    exact ⟨e, he, hfield, hcells⟩
  have hlength : columns.length = t.columns.length := by
    rw [← hcolumns.length_eq, List.length_zipIdx]
  have huniform : ∀ e ∈ columns, e.cells.length = ((t :: later).flatMap rows).length := by
    intro e he
    obtain ⟨x, -, -, -, hcells⟩ := exists_of_forall₂_right hcolumns he
    rw [hcells, List.length_map]
  have hschema : columns.map (·.toField) = t.schema := by
    apply List.ext_getElem?
    intro j
    rw [schema, List.getElem?_map, List.getElem?_map]
    cases hc : t.columns[j]? with
    | none =>
        rw [List.getElem?_eq_none_iff, ← hlength, ← List.getElem?_eq_none_iff] at hc
        rw [hc]
    | some c =>
        obtain ⟨e, he, hfield, -⟩ := hjoined hc
        rw [he]
        exact congrArg some hfield
  refine ⟨⟨_, columns, huniform⟩, ?_, hschema, ?_⟩
  · rw [appendColumns?, mapM_eq_some_iff.mpr (hcolumns.imp fun _ _ he => he.1)]
    exact dif_pos huniform
  · apply eq_of_map_getD_eq (n := t.schema.length)
    · intro row hrow
      rw [length_of_mem_rows hrow]
      exact congrArg List.length hschema
    · intro row hrow
      obtain ⟨u, hu, hrow⟩ := List.mem_flatMap.mp hrow
      rw [length_of_mem_rows hrow]
      rcases List.mem_cons.mp hu with rfl | hu
      · rfl
      · rw [(hlater u hu).1]
    · exact length_rows _
    · intro j hj
      rw [schema, List.length_map] at hj
      obtain ⟨e, he, -, hcells⟩ := hjoined (List.getElem?_eq_getElem hj)
      rw [← hcells]
      exact map_getD_rows he

/-- Tables of one schema can be joined, and then their rows come one after the other. -/
theorem concat_spec {schema : List Field} (hne : tables ≠ [])
    (h : ∀ t ∈ tables, t.schema = schema ∧ t.Admissible) :
    ∃ t, concat tables = .ok t ∧ t.schema = schema ∧ t.rows = tables.flatMap rows := by
  match tables with
  | [] => exact absurd rfl hne
  | [t] => exact ⟨t, rfl, (h t List.mem_cons_self).1, by simp⟩
  | t :: u :: later =>
      obtain ⟨rfl, ht⟩ := h t List.mem_cons_self
      obtain ⟨joined, hjoined, hspec⟩ :=
        exists_appendColumns? ht fun v hv => h v (List.mem_cons_of_mem t hv)
      refine ⟨joined, ?_, hspec⟩
      rw [concat, foldl_height, Nat.zero_add, hjoined]
      exact nofun

end Table

end Cadence
