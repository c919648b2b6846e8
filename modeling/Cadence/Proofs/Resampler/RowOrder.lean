import Cadence.Proofs.Resampler.Keeping
import Cadence.Proofs.Table.Rows

/-!
# Rows in any order

A resampler looks at the rows of its tables in time order only. So it does not matter how
the rows are split into tables and in which order they come, as long as the rows of each
instant keep theirs.
-/

namespace Cadence

/-! ### Instants of rows -/

namespace TimeAxis

/-- The instant that a cell of a time column stands for. -/
def cellInstant? (type : ColumnType) (x : Cell) : Option Int :=
  if x = .null then none
  else
    match type with
    | .timestamp resolution _ => some (ofTimestamp resolution x.slot)
    | .date32 => (ofDate nanosPerDay x.slot).toOption
    | .date64 => (ofDate 1000000 x.slot).toOption
    | _ => none

/-- The instant of a row, by the first column of a name. -/
def rowInstant? (schema : List Field) (name : String) (row : List Cell) : Option Int :=
  ((schema.zip row).find? (·.1.name = name)).bind fun x => cellInstant? x.1.type x.2

variable {t : Table} {c : Column} {name : String} {axis : TimeAxis} {instants : List Int} {i : Nat}
variable {places : List Nat} {e : Error}

theorem rowInstant?_row (t : Table) (name : String) (i : Nat) :
    rowInstant? t.schema name (t.row i) =
      (t.column? name).bind fun c => cellInstant? c.type (c.cell i) := by
  have hzip : t.schema.zip (t.row i) = t.columns.map fun c => (c.toField, c.cell i) :=
    List.zip_map'
  rw [rowInstant?, hzip, List.find?_map, Option.bind_map]
  rfl

theorem cellInstant?_of_instantsOf (h : instantsOf c = .ok instants)
    (hvalues : .null ∉ c.cells) (hi : i < c.cells.length) :
    cellInstant? c.type (c.cell i) = some (instants.getD i 0) := by
  have hcell : c.cell i ∈ c.cells := Column.cell_eq_getElem hi ▸ List.getElem_mem hi
  have hvalue : c.cell i ≠ .null := fun hnull => hvalues (hnull ▸ hcell)
  have hplaced : c.cells[i]? = some (c.cell i) := by
    rw [Column.cell_eq_getElem hi, List.getElem?_eq_getElem hi]
  have hdates : ∀ {unit : Int}, c.cells.mapM (fun x => ofDate unit x.slot) = .ok instants →
      (ofDate unit (c.cell i).slot).toOption = some (instants.getD i 0) := by
    intro unit hmap
    obtain ⟨n, hn, hdate⟩ := getElem?_of_mapM_eq_ok hmap hplaced
    rw [hdate, List.getD_eq_getElem?_getD, hn]
    rfl
  unfold instantsOf at h
  split at h
  · next htype =>
      cases h
      unfold cellInstant?
      rw [if_neg hvalue, htype, List.getD_eq_getElem?_getD, List.getElem?_map, hplaced]
      rfl
  · next htype =>
      unfold cellInstant?
      rw [if_neg hvalue, htype]
      exact hdates h
  · next htype =>
      unfold cellInstant?
      rw [if_neg hvalue, htype]
      exact hdates h
  · cases h

/-- Each row of a table with a time axis has its instant. -/
theorem rowInstant?_of_ofTable [Zone.Database] (h : ofTable t name = .ok axis) (hi : i < t.height) :
    rowInstant? t.schema name (t.row i) = some (axis.instantAt i) := by
  obtain ⟨c, hc, htemporal, hnone, hinstants, -, -⟩ := ofTable_eq_ok_iff.mp h
  rw [rowInstant?_row, hc, Option.bind_some]
  apply cellInstant?_of_instantsOf hinstants
  · apply (Column.nullCount_eq_zero_iff.mp hnone).resolve_left
    intro hnothing
    rw [hnothing] at htemporal
    cases htemporal
  · rw [Table.length_of_column? hc]
    exact hi

/-! ### Refusals -/

theorem ofDate_eq_error {unit n : Int} (h : ofDate unit n = .error e) : e = .overflow :=
  (Counter.require_eq_error_iff.mp h).2.symm

/-- Whether a column has instants does not depend on the order of its rows. -/
theorem instantsOf_select_eq_error (hplaces : places.Perm (List.range c.cells.length))
    (h : instantsOf c = .error e) : instantsOf (c.select places) = .error e := by
  have hcells := Column.perm_cells_select hplaces
  have hdates : ∀ unit : Int, c.cells.mapM (fun x => ofDate unit x.slot) = .error e →
      (c.select places).cells.mapM (fun x => ofDate unit x.slot) = .error e := by
    intro unit hmap
    rw [mapM_eq_error_iff fun _ _ hx => ofDate_eq_error hx] at hmap ⊢
    obtain ⟨rfl, x, hx, hdate⟩ := hmap
    exact ⟨rfl, x, hcells.mem_iff.mpr hx, hdate⟩
  have htype : (c.select places).type = c.type := rfl
  unfold instantsOf at h ⊢
  rw [htype]
  split at h
  · cases h
  · exact hdates _ h
  · exact hdates _ h
  · exact h

theorem ofColumn_select_eq_error [Zone.Database] (hplaces : places.Perm (List.range c.cells.length))
    (h : ofColumn name c = .error e) : ofColumn name (c.select places) = .error e := by
  have htype : (c.select places).type = c.type := rfl
  have hcount : (c.select places).nullCount = c.nullCount := by
    simp only [Column.nullCount, htype, (Column.perm_cells_select hplaces).countP_eq]
  unfold ofColumn at h ⊢
  rw [htype, hcount]
  split at h
  · next htemporal =>
      rw [if_pos htemporal]
      dsimp only at h ⊢
      split at h
      · next hnulls =>
          rw [if_pos hnulls]
          exact h
      · next hnulls =>
          rw [if_neg hnulls]
          rw [bind_eq_error_iff] at h ⊢
          rcases h with h | ⟨instants, hinstants, h⟩
          · exact .inl (instantsOf_select_eq_error hplaces h)
          · have hrows : ∀ row ∈ places, row < c.cells.length :=
              fun row hrow => List.mem_range.mp (hplaces.mem_iff.mp hrow)
            refine .inr ⟨_, instantsOf_select hinstants hrows, ?_⟩
            rw [bind_eq_error_iff] at h ⊢
            rcases h with h | ⟨_, -, h⟩
            · exact .inl h
            · cases h
  · next htemporal =>
      rw [if_neg htemporal]
      exact h

theorem ofTable_select_eq_error [Zone.Database] (hplaces : places.Perm (List.range t.height))
    (h : ofTable t name = .error e) : ofTable (t.select places) name = .error e := by
  unfold ofTable at h ⊢
  rw [Table.column?_select]
  split at h
  · next hc =>
      rw [hc]
      exact h
  · next c hc =>
      rw [hc]
      rw [← Table.length_of_column? hc] at hplaces
      exact ofColumn_select_eq_error hplaces h

/-! ### Rows in time order -/

/-- The rows of a selection in time order are its rows, sorted by their instants. -/
theorem map_row_arrange [Zone.Database]
    (h : ofTable t name = .ok axis) (hplaces : ∀ i ∈ places, i < t.height) :
    (axis.arrange places).map t.row =
      (places.map t.row).mergeSort fun a b =>
        (rowInstant? t.schema name a).getD 0 ≤ (rowInstant? t.schema name b).getD 0 := by
  apply List.map_mergeSort
  intro a ha b hb
  rw [rowInstant?_of_ofTable h (hplaces a ha), rowInstant?_of_ofTable h (hplaces b hb)]
  rfl

end TimeAxis

namespace Timeline

variable {t u : Table} {name : String}

/-- Tables with the same rows, of which those of one instant come in the same order, have
one timeline. -/
theorem ofTable_eq_of_rows [Zone.Database]
    (hschema : u.schema = t.schema) (hperm : u.rows.Perm t.rows)
    (horder : ∀ i, u.rows.filter (TimeAxis.rowInstant? t.schema name · = some i) =
      t.rows.filter (TimeAxis.rowInstant? t.schema name · = some i)) :
    ofTable u name = ofTable t name := by
  obtain ⟨places, hplaces, rfl⟩ := Table.exists_select_of_perm hschema hperm
  have hrows : ∀ i ∈ places, i < t.height :=
    fun i hi => List.mem_range.mp (hplaces.mem_iff.mp hi)
  cases haxis : TimeAxis.ofTable t name with
  | error e =>
      rw [ofTable_eq_error haxis,
        ofTable_eq_error (TimeAxis.ofTable_select_eq_error hplaces haxis)]
  | ok axis =>
      have hall : ∀ i ∈ List.range t.height, i < t.height := fun i hi => List.mem_range.mp hi
      have hkeys : ∀ {is : List Nat}, (∀ i ∈ is, i < t.height) → ∀ k,
          (is.map t.row).filter (fun row => (TimeAxis.rowInstant? t.schema name row).getD 0 = k) =
            (is.map t.row).filter (TimeAxis.rowInstant? t.schema name · = some k) := by
        intro is his k
        apply List.filter_congr
        intro row hrow
        obtain ⟨i, hi, rfl⟩ := List.mem_map.mp hrow
        simp only [TimeAxis.rowInstant?_of_ofTable haxis (his i hi), Option.getD_some,
          Option.some_inj]
      have harranged : (axis.arrange places).map t.row =
          (axis.arrange (List.range t.height)).map t.row := by
        rw [TimeAxis.map_row_arrange haxis hrows, TimeAxis.map_row_arrange haxis hall]
        apply mergeSort_eq_of_filter_key_eq
        intro k
        rw [hkeys hrows, hkeys hall, ← Table.rows_select]
        exact horder k
      have htable : t.select (axis.arrange places) =
          t.select (axis.arrange (List.range t.height)) := by
        apply Table.eq_of_rows_eq
        · rw [Table.schema_select, Table.schema_select]
        · rw [Table.rows_select, Table.rows_select, harranged]
      have haxes : TimeAxis.ofTable (t.select (axis.arrange places)) name =
          .ok (axis.select (axis.arrange places)) :=
        TimeAxis.ofTable_select haxis fun i hi => hrows i (TimeAxis.mem_arrange.mp hi)
      rw [htable, TimeAxis.ofTable_select haxis fun i hi => hall i (TimeAxis.mem_arrange.mp hi)]
        at haxes
      rw [ofTable_eq haxis, ofTable_select haxis hrows, htable, Except.ok.inj haxes]

end Timeline

/-! ### Tables in any order -/

namespace Resampler

variable {ts us : List Table} {schema : List Field}

/-- Resampling tables depends on their rows in time order only: tables of one schema with the
same rows, of which those of one instant come in the same order, are resampled alike, with the
same table or the same error. -/
theorem transformAll_eq_of_rows [Zone.Database] (r : Resampler) (hts : ts ≠ []) (hus : us ≠ [])
    (htables : ∀ t ∈ ts ++ us, t.schema = schema ∧ t.Admissible)
    (hperm : (ts.flatMap Table.rows).Perm (us.flatMap Table.rows))
    (horder : ∀ i, (ts.flatMap Table.rows).filter
        (TimeAxis.rowInstant? schema r.spec.timeColumn · = some i) =
      (us.flatMap Table.rows).filter
        (TimeAxis.rowInstant? schema r.spec.timeColumn · = some i)) :
    r.transformAll ts = r.transformAll us := by
  obtain ⟨t, ht, htschema, htrows⟩ :=
    Table.concat_spec hts fun t ht => htables t (List.mem_append_left _ ht)
  obtain ⟨u, hu, huschema, hurows⟩ :=
    Table.concat_spec hus fun u hu => htables u (List.mem_append_right _ hu)
  have hline : Timeline.ofTable t r.spec.timeColumn = Timeline.ofTable u r.spec.timeColumn := by
    apply Timeline.ofTable_eq_of_rows (htschema.trans huschema.symm)
    · rwa [htrows, hurows]
    · rwa [huschema, htrows, hurows]
  have hrun : r.transform t = r.transform u := by
    rw [transform, transform, run, run, hline]
  rw [transformAll, transformAll, ht, hu]
  change (Journaled.lift (.ok t)).andThen r.transform = (Journaled.lift (.ok u)).andThen r.transform
  simp only [Journaled.andThen, Journaled.lift, hrun]

/-- The loads, and the same loads in two tables with later rows before earlier ones. -/
theorem transformAll_eq_of_rows_loads :
    let ts := [Table.loads]
    let us := [Table.loads.select [3, 2], Table.loads.select [0, 4, 1]]
    (∃ out, (hourlyLoads.transformAll ts).outcome = .ok out) ∧
      ts.flatMap Table.rows ≠ us.flatMap Table.rows ∧
      hourlyLoads.transformAll ts = hourlyLoads.transformAll us := by
  intro ts us
  have hperm : (ts.flatMap Table.rows).Perm (us.flatMap Table.rows) := by decide +kernel
  have htables : ∀ t ∈ ts ++ us, t.schema = Table.loads.schema ∧ t.Admissible := by decide +kernel
  refine ⟨?_, by decide +kernel, transformAll_eq_of_rows _ (by simp [ts]) (by simp [us]) htables
    hperm ?_⟩
  · obtain ⟨out, hout⟩ := exists_transform_loads (r := hourlyLoads) rfl rfl
      WindowSpec.assign_loads (by decide +kernel)
    exact ⟨out, hout⟩
  · have horder : ∀ row ∈ ts.flatMap Table.rows,
        (ts.flatMap Table.rows).filter (TimeAxis.rowInstant? Table.loads.schema "ts" · =
            TimeAxis.rowInstant? Table.loads.schema "ts" row) =
          (us.flatMap Table.rows).filter (TimeAxis.rowInstant? Table.loads.schema "ts" · =
            TimeAxis.rowInstant? Table.loads.schema "ts" row) := by decide +kernel
    intro i
    by_cases hi : ∃ row ∈ ts.flatMap Table.rows,
        TimeAxis.rowInstant? Table.loads.schema "ts" row = some i
    · obtain ⟨row, hrow, hi⟩ := hi
      rw [← hi]
      exact horder row hrow
    · have hnone : ∀ row ∈ ts.flatMap Table.rows,
          ¬TimeAxis.rowInstant? Table.loads.schema "ts" row = some i :=
        fun row hrow heq => hi ⟨row, hrow, heq⟩
      rw [List.filter_eq_nil_iff.mpr, List.filter_eq_nil_iff.mpr]
      · intro row hrow
        exact decide_eq_true_iff.not.mpr (hnone row (hperm.mem_iff.mpr hrow))
      · intro row hrow
        exact decide_eq_true_iff.not.mpr (hnone row hrow)

end Resampler

end Cadence
