import Cadence.Proofs.Reducer.Parts
import Cadence.Proofs.Resampler.Keeping
import Cadence.Proofs.Window.Regrouping

/-!
# Tables of windows as tables to resample

A resampler with one reducer that makes integers of integers leaves a table that can be
resampled again: it has the columns of the groups, a time column of the labels, and for each
target a column of integers under the name of the target.
-/

namespace Cadence

namespace Reducer

variable {r : Reducer}

theorem Folds.supports_int64 (h : r.Folds) : r.supports .int64 = true := by
  rcases h with rfl | rfl | rfl <;> rfl

theorem Folds.supports_of_isTemporal (h : r.Folds) {type : ColumnType}
    (htype : TimeAxis.isTemporal type = true) : r.supports type = false := by
  have hnumeric : type.isNumeric = false := by
    cases type with
    | integer | float => cases htype
    | _ => rfl
  rcases h with rfl | rfl | rfl <;> exact hnumeric

end Reducer

namespace Resampler

/-- A resampler whose tables of windows can be resampled again: it keeps partial windows,
takes the sums, the greatest or the least numbers, moves no row, and labels windows on the
side on which they are closed. -/
structure Repeatable (r : Resampler) (reducer : Reducer) : Prop where
  keeps : r.policy = .keep
  reducers : r.reducers.map (·.reducer) = [reducer]
  folds : reducer.Folds
  offset : r.spec.offset = none
  label : r.spec.label = r.spec.closed.label
  ungrouped : r.spec.timeColumn ∉ r.spec.groupBy

/-- The columns to reduce hold integers of 64 bits. -/
def ReducesInts (r : Resampler) (t : Table) : Prop :=
  ∀ names, r.targetNames t = .ok names → ∀ name ∈ names, ∀ c, t.column? name = some c →
    c.type = .int64

/-- The column of the numbers that a reducer makes of the windows of a named column. -/
def Folded (reducer : Reducer) (t : Table) (windows : List Window) (name : String)
    (d : Column) : Prop :=
  ∃ c numbers, t.column? name = some c ∧
    windows.Forall₂ (fun w n => reducer.fold? (c.intsAt w.rows) = some n) numbers ∧
    .ofInts name numbers = d

/-- The table `out` has a row for each window of `t`: the keys and times of the windows, and
the numbers that the reducer makes of the named columns. -/
structure Tabulates (r : Resampler) (reducer : Reducer) (t : Table) (axis : TimeAxis)
    (windows : List Window) (names : List String) (keys columns : List Column) (out : Table) :
    Prop where
  grouped : t.groupColumns r.spec.groupBy = .ok keys
  folded : names.Forall₂ (Folded reducer t windows) columns
  height : out.height = windows.length
  columns_eq : out.columns = r.leadingColumns keys axis windows ++ columns
  admissible : out.Admissible

variable {r : Resampler} {reducer : Reducer} {t out : Table} {line : Timeline} {axis : TimeAxis}
variable {windows : List Window} {names : List String} {keys columns : List Column} {c : Column}
variable {name : String}

/-- The columns to reduce hold integers of 64 bits, if all columns do that the resampler does
not reserve. -/
theorem reducesInts_of_types
    (htargets : ∀ targets, r.targets = some targets → ∀ name ∈ targets, r.reserves name = false)
    (hints : ∀ c ∈ t.columns, r.reserves c.name = false → c.type = .int64) :
    r.ReducesInts t := by
  intro names hnames name hname c hc
  have hcname : c.name = name := by simpa using List.find?_some hc
  apply hints c (List.mem_of_find?_eq_some hc)
  rw [hcname]
  exact reserves_of_mem_targetNames htargets hnames hname

theorem ReducesInts.select (h : r.ReducesInts t) (rows : List Nat) :
    r.ReducesInts (t.select rows) := by
  intro names hnames name hname c hc
  rw [targetNames_select] at hnames
  rw [Table.column?_select] at hc
  obtain ⟨d, hd, rfl⟩ := Option.map_eq_some_iff.mp hc
  exact h names hnames name hname d hd

theorem Folded.field_eq {d : Column} (h : Folded reducer t windows name d) :
    d.toField = ⟨name, .int64, true⟩ := by
  obtain ⟨_, _, -, -, rfl⟩ := h
  rfl

theorem Repeatable.supports_iff (hr : r.Repeatable reducer) {type : ColumnType} :
    (∀ named ∈ r.reducers, named.reducer.supports type = true) ↔ reducer.supports type = true := by
  obtain ⟨named, hreducers, rfl⟩ := List.map_eq_singleton_iff.mp hr.reducers
  rw [hreducers, List.forall_mem_singleton]

theorem Repeatable.reduces_iff (hr : r.Repeatable reducer) (htype : c.type = .int64) :
    r.Reduces windows name c columns ↔ ∃ d, (∃ numbers,
      windows.Forall₂ (fun w n => reducer.fold? (c.intsAt w.rows) = some n) numbers ∧
        .ofInts name numbers = d) ∧ [d] = columns := by
  obtain ⟨named, hreducers, rfl⟩ := List.map_eq_singleton_iff.mp hr.reducers
  simp only [Reduces, hreducers, List.forall₂_cons_left_iff, List.forall₂_nil_left_iff,
    Reducer.reduce_eq_ok_iff hr.folds htype, List.forall₂_map_left_iff]
  constructor
  · rintro ⟨d, _, ⟨_, ⟨numbers, hnumbers, rfl⟩, rfl⟩, rfl, rfl⟩
    exact ⟨_, ⟨numbers, hnumbers, rfl⟩, rfl⟩
  · rintro ⟨_, ⟨numbers, hnumbers, rfl⟩, rfl⟩
    exact ⟨_, _, ⟨_, ⟨numbers, hnumbers, rfl⟩, rfl⟩, rfl, rfl⟩

theorem Repeatable.summaryTable_eq_ok_iff (hr : r.Repeatable reducer)
    (hints : r.ReducesInts line.table) :
    r.summaryTable line = .ok out ↔
      ∃ a names keys columns, (r.spec.assign line.table line.axis).outcome = .ok a ∧
        r.targetNames line.table = .ok names ∧
        r.Tabulates reducer line.table line.axis a.windows names keys columns out := by
  have houtputs : ∀ {windows : List Window} {names : List String} {outputs : List (List Column)},
      r.targetNames line.table = .ok names →
      (names.Forall₂ (fun name columns => ∃ c, line.table.column? name = some c ∧
          r.Reduces windows name c columns) outputs ↔
        ∃ columns, names.Forall₂ (Folded reducer line.table windows) columns ∧
          columns.map ([·]) = outputs) := by
    intro windows names outputs hnames
    rw [← forall₂_exists_map_iff]
    constructor
    · intro h
      apply ((List.forall₂_and_left _ _).mpr ⟨hints names hnames, h⟩).imp
      rintro name columns ⟨htype, c, hc, hreduces⟩
      obtain ⟨d, ⟨numbers, hnumbers, hd⟩, hcolumns⟩ := (hr.reduces_iff (htype c hc)).mp hreduces
      exact ⟨d, ⟨c, numbers, hc, hnumbers, hd⟩, hcolumns⟩
    · intro h
      apply ((List.forall₂_and_left _ _).mpr ⟨hints names hnames, h⟩).imp
      rintro name columns ⟨htype, d, ⟨c, numbers, hc, hnumbers, hd⟩, hcolumns⟩
      exact ⟨c, hc, (hr.reduces_iff (htype c hc)).mpr ⟨d, ⟨numbers, hnumbers, hd⟩, hcolumns⟩⟩
  have hflatten : ∀ columns : List Column, (columns.map ([·])).flatten = columns :=
    fun columns => List.flatMap_singleton' columns
  rw [Resampler.summaryTable_eq_ok_iff]
  constructor
  · rintro ⟨a, names, keys, outputs, ha, hnames, hkeys, h, hheight, hcolumns, hadmissible⟩
    obtain ⟨columns, hfolded, rfl⟩ := (houtputs hnames).mp h
    rw [hflatten] at hcolumns
    exact ⟨a, names, keys, columns, ha, hnames, hkeys, hfolded, hheight, hcolumns, hadmissible⟩
  · rintro ⟨a, names, keys, columns, ha, hnames, hkeys, hfolded, hheight, hcolumns, hadmissible⟩
    refine ⟨a, names, keys, columns.map ([·]), ha, hnames, hkeys, ?_, hheight, ?_, hadmissible⟩
    · exact (houtputs hnames).mpr ⟨columns, hfolded, rfl⟩
    · rwa [hflatten]

/-! ### Looking up columns of windows -/

namespace Tabulates

variable (h : r.Tabulates reducer t axis windows names keys columns out)
include h

theorem column?_eq (name : String) : out.column? name =
    ((groupColumns keys windows).find? (·.name = name)).or
      (((r.timeColumns axis windows).find? (·.name = name)).or
        (columns.find? (·.name = name))) := by
  rw [Table.column?, h.columns_eq, leadingColumns, List.append_assoc, List.find?_append,
    List.find?_append]

theorem find?_groupColumns (hname : name ∉ r.spec.groupBy) :
    (groupColumns keys windows).find? (·.name = name) = none := by
  rw [List.find?_eq_none]
  intro c hc heq
  obtain ⟨key, hkey, rfl⟩ := List.mem_map.mp hc
  apply hname
  rw [← Table.names_of_groupColumns h.grouped, List.mem_map]
  exact ⟨key, hkey, of_decide_eq_true heq⟩

/-- The columns of the groups are found again. -/
theorem groupColumns_eq : out.groupColumns r.spec.groupBy = .ok (groupColumns keys windows) := by
  have hkeys : r.spec.groupBy.Forall₂ (fun name c => t.column? name = some c) keys :=
    (mapM_eq_ok_iff.mp h.grouped).imp fun _ _ hc => elim_eq_ok_iff.mp hc
  have hfound : ∀ {names : List String} {keys : List Column},
      names.Forall₂ (fun name c => t.column? name = some c) keys → ∀ {name c}, name ∈ names →
      t.column? name = some c → (groupColumns keys windows).find? (·.name = name) =
        some (c.select (windows.map fun w => w.rows.headD 0)) := by
    intro names keys hkeys name c hname hc
    induction hkeys with
    | nil => cases hname
    | @cons first key names keys hkey _ ih =>
        have hkeyName : key.name = first := by simpa using List.find?_some hkey
        rw [groupColumns, List.map_cons]
        by_cases heq : first = name
        · cases heq
          cases hkey.symm.trans hc
          exact List.find?_cons_of_pos (decide_eq_true hkeyName)
        · rw [List.find?_cons_of_neg]
          · exact ih ((List.mem_cons.mp hname).resolve_left fun heq' => heq heq'.symm)
          · intro hfirst
            exact heq (hkeyName.symm.trans (of_decide_eq_true hfirst))
  rw [Table.groupColumns, mapM_eq_ok_iff, Resampler.groupColumns, List.forall₂_map_right_iff]
  apply ((List.forall₂_and_left _ _).mpr ⟨fun name hname => hname, hkeys⟩).imp
  rintro name c ⟨hname, hc⟩
  rw [h.column?_eq, hfound hkeys hname hc]
  rfl

/-- The time column is found again, unless the column of the upper ends has its name. -/
theorem column?_timeColumn (hungrouped : r.spec.timeColumn ∉ r.spec.groupBy)
    (hends : r.boundaries = true → windows.map (·.label) = windows.map (·.bounds.lower) ∧
      r.spec.timeColumn ≠ upperName) :
    out.column? r.spec.timeColumn =
      some (axis.column r.spec.timeColumn (windows.map (·.label))) := by
  have htimes : (r.timeColumns axis windows).find? (·.name = r.spec.timeColumn) =
      some (axis.column r.spec.timeColumn (windows.map (·.label))) := by
    unfold timeColumns
    cases hboundaries : r.boundaries with
    | false => exact List.find?_cons_of_pos (decide_eq_true rfl)
    | true =>
        obtain ⟨hlabels, hupper⟩ := hends hboundaries
        by_cases hlower : lowerName = r.spec.timeColumn
        · rw [hlabels, ← hlower]
          exact List.find?_cons_of_pos (decide_eq_true rfl)
        · rw [if_pos rfl, List.cons_append, List.find?_cons_of_neg, List.cons_append,
            List.find?_cons_of_neg, List.nil_append]
          · exact List.find?_cons_of_pos (decide_eq_true rfl)
          · exact fun heq => hupper (of_decide_eq_true heq).symm
          · exact fun heq => hlower (of_decide_eq_true heq)
  rw [h.column?_eq, h.find?_groupColumns hungrouped, htimes]
  rfl

theorem find?_timeColumns (hname : name ∉ r.leadingNames) :
    (r.timeColumns axis windows).find? (·.name = name) = none := by
  rw [List.find?_eq_none]
  intro c hc heq
  apply hname
  have hmem : name ∈ (r.leadingColumns keys axis windows).map (·.name) := by
    rw [← of_decide_eq_true heq]
    exact List.mem_map_of_mem (List.mem_append_right _ hc)
  rwa [names_leadingColumns h.grouped] at hmem

/-- The first column with the name of a column of times is one of times, unless a group has
that name. -/
theorem exists_timeColumn (hleading : name ∈ r.leadingNames) (hgroups : name ∉ r.spec.groupBy) :
    ∃ c ∈ r.timeColumns axis windows, out.column? name = some c := by
  have hmem : name ∈ (r.timeColumns axis windows).map (·.name) := by
    rw [names_timeColumns]
    exact (List.mem_append.mp hleading).resolve_left hgroups
  obtain ⟨c, hc, rfl⟩ := List.mem_map.mp hmem
  have hsome : ((r.timeColumns axis windows).find? (·.name = c.name)).isSome :=
    List.find?_isSome.mpr ⟨c, hc, decide_eq_true rfl⟩
  obtain ⟨d, hd⟩ := Option.isSome_iff_exists.mp hsome
  refine ⟨d, List.mem_of_find?_eq_some hd, ?_⟩
  rw [h.column?_eq, h.find?_groupColumns hgroups, hd]
  rfl

/-- The column of a target is found again, unless a column before it has its name. -/
theorem column?_target (hname : name ∈ names) (hleading : name ∉ r.leadingNames) :
    ∃ d, out.column? name = some d ∧ Folded reducer t windows name d := by
  have hgroups : name ∉ r.spec.groupBy := fun hmem => hleading (List.mem_append_left _ hmem)
  rw [h.column?_eq, h.find?_groupColumns hgroups, h.find?_timeColumns hleading, Option.none_or,
    Option.none_or]
  obtain ⟨i, hi⟩ := List.mem_iff_getElem?.mp hname
  obtain ⟨d, hd, hfolded⟩ := getElem?_of_forall₂ h.folded hi
  have hfound : (columns.find? (·.name = name)).isSome := by
    rw [List.find?_isSome]
    exact ⟨d, List.mem_of_getElem? hd, decide_eq_true (congrArg Field.name hfolded.field_eq)⟩
  obtain ⟨e, he⟩ := Option.isSome_iff_exists.mp hfound
  obtain ⟨name', -, hfolded⟩ := exists_of_forall₂_right h.folded (List.mem_of_find?_eq_some he)
  have hename : e.name = name := by simpa using List.find?_some he
  have hsame : name' = name := (congrArg Field.name hfolded.field_eq).symm.trans hename
  exact ⟨e, he, hsame ▸ hfolded⟩

/-- A table of windows that has columns to reduce has those of the table among them. -/
theorem mem_targetNames {names' : List String} (hr : r.Repeatable reducer)
    (hnames : r.targetNames t = .ok names) (hname : name ∈ names)
    (hreserves : r.reserves name = false) (hout : r.targetNames out = .ok names') :
    name ∈ names' := by
  cases htargets : r.targets with
  | some targets =>
      rw [targetNames_eq_of_targets htargets hnames] at hname
      rwa [targetNames_eq_of_targets htargets hout]
  | none =>
      obtain ⟨i, hi⟩ := List.mem_iff_getElem?.mp hname
      obtain ⟨d, hd, hfolded⟩ := getElem?_of_forall₂ h.folded hi
      have hcolumn : d ∈ out.columns := by
        rw [h.columns_eq]
        exact List.mem_append_right _ (List.mem_of_getElem? hd)
      apply (mem_targetNames_iff htargets hout).mpr
      refine ⟨hreserves, d, hcolumn, congrArg Field.name hfolded.field_eq, hr.supports_iff.mpr ?_⟩
      rw [congrArg Field.type hfolded.field_eq]
      exact hr.folds.supports_int64

/-- None of the columns before the reduced ones suits the reducer. -/
theorem suits_leadingColumns (hr : reducer.Folds) (hc : c ∈ r.leadingColumns keys axis windows) :
    (decide (c.name ∉ r.spec.timeColumn :: r.spec.groupBy) &&
      [reducer].all (·.supports c.type)) = false := by
  rcases List.mem_append.mp hc with hc | hc
  · obtain ⟨key, hkey, rfl⟩ := List.mem_map.mp hc
    have hgrouped : key.name ∈ r.spec.groupBy := by
      rw [← Table.names_of_groupColumns h.grouped]
      exact List.mem_map_of_mem hkey
    have hexcluded : (key.select (windows.map fun w => w.rows.headD 0)).name ∈
        r.spec.timeColumn :: r.spec.groupBy := List.mem_cons_of_mem _ hgrouped
    rw [Bool.and_eq_false_iff, decide_eq_false_iff_not, not_not]
    exact .inl hexcluded
  · rw [Bool.and_eq_false_iff, type_of_mem_timeColumns hc]
    have htemporal : TimeAxis.isTemporal axis.columnType = true := rfl
    exact .inr (by simp [hr.supports_of_isTemporal htemporal])

/-- The targets of a table of windows are those of the table. -/
theorem targetNames_eq (hr : r.Repeatable reducer) (hnames : r.targetNames t = .ok names)
    (hleading : ∀ name ∈ names, name ∉ r.leadingNames) : r.targetNames out = .ok names := by
  have hsupports : reducer.supports .int64 = true := hr.folds.supports_int64
  have hfields : ∀ d ∈ columns, ∃ name ∈ names, d.toField = ⟨name, .int64, true⟩ := by
    intro d hd
    obtain ⟨name, hname, hfolded⟩ := exists_of_forall₂_right h.folded hd
    exact ⟨name, hname, hfolded.field_eq⟩
  have htargets := hnames
  rw [targetNames, hr.reducers] at hnames ⊢
  unfold Reducer.targets at hnames ⊢
  cases hexplicit : r.targets with
  | some targets =>
      simp only [hexplicit] at hnames ⊢
      obtain ⟨-, -, hnames⟩ := bind_eq_ok_iff.mp hnames
      cases hnames
      refine bind_eq_ok_iff.mpr ⟨(), forM_eq_ok_iff.mpr fun name hname => ?_, rfl⟩
      obtain ⟨d, hd, hfolded⟩ := h.column?_target hname (hleading name hname)
      rw [Reducer.checkTarget, Table.find?_schema, hd, Option.map_some, hfolded.field_eq]
      simp [hsupports]
  | none =>
      simp only [hexplicit] at hnames ⊢
      have hkept : ∀ name ∈ names, name ∉ r.spec.timeColumn :: r.spec.groupBy :=
        fun name hname => reserves_eq_false_iff.mp
          ((mem_targetNames_iff hexplicit htargets).mp hname).1
      have hcolumns : columns.map (·.toField.name) = names := by
        rw [← List.forall₂_eq_eq_eq, List.forall₂_map_left_iff]
        exact h.folded.flip.imp fun _ _ hfolded => congrArg Field.name (Folded.field_eq hfolded)
      rw [Table.schema, h.columns_eq, List.map_append, List.filter_append,
        List.filter_eq_nil_iff.mpr, List.filter_eq_self.mpr, List.nil_append, List.map_map]
      · exact congrArg Except.ok hcolumns
      · intro field hfield
        obtain ⟨d, hd, rfl⟩ := List.mem_map.mp hfield
        obtain ⟨name, hname, hfield⟩ := hfields d hd
        rw [hfield]
        simp [hkept name hname, hsupports]
      · intro field hfield
        obtain ⟨c, hc, rfl⟩ := List.mem_map.mp hfield
        rw [h.suits_leadingColumns hr.folds hc]
        exact Bool.false_ne_true

end Tabulates

end Resampler

end Cadence
