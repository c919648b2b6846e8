import Cadence.Proofs.Outcome
import Cadence.Resampler

/-!
# Tables of windows

A summary has one row for each window. The keys and the times of the windows come
first, then the reduced columns, which take nulls. A policy has to know no more of
a summary than that.
-/

namespace Cadence

/-! ### Reduced columns -/

/-- A column that may hold nulls and that marks them. -/
def Column.TakesNulls (c : Column) : Prop := c.nullable = true ∧ c.type ≠ .nothing

theorem Column.takesNulls_ofInts (name : String) (numbers : List (Option Int)) :
    (ofInts name numbers).TakesNulls := by
  refine ⟨rfl, ?_⟩
  change ColumnType.int64 ≠ .nothing
  decide

theorem Column.takesNulls_ofFloats (name : String) (numbers : List (Option Float)) :
    (ofFloats name numbers).TakesNulls := by
  refine ⟨rfl, ?_⟩
  change ColumnType.float64 ≠ .nothing
  decide

theorem Column.takesNulls_ofLists (c : Column) (windows : List (List Nat)) :
    (c.ofLists windows).TakesNulls := by
  refine ⟨rfl, ?_⟩
  change ColumnType.list c.type ≠ .nothing
  exact nofun

namespace Reducer

variable {r : Reducer} {c d : Column} {windows : List (List Nat)}

/-- A column that is made of a column, of numbers or of lists, with one of them for each window. -/
inductive Makes (c : Column) (windows : List (List Nat)) : Column → Prop
  | ints {numbers : List (Option Int)} : numbers.length = windows.length →
      Makes c windows (.ofInts c.name numbers)
  | floats {numbers : List (Option Float)} : numbers.length = windows.length →
      Makes c windows (.ofFloats c.name numbers)
  | lists : Makes c windows (c.ofLists windows)

theorem Makes.takesNulls (h : Makes c windows d) : d.TakesNulls := by
  cases h with
  | ints => exact Column.takesNulls_ofInts _ _
  | floats => exact Column.takesNulls_ofFloats _ _
  | lists => exact Column.takesNulls_ofLists _ _

theorem Makes.length_cells (h : Makes c windows d) : d.cells.length = windows.length := by
  cases h with
  | ints hlength => rw [Column.length_ofInts, hlength]
  | floats hlength => rw [Column.length_ofFloats, hlength]
  | lists => exact Column.length_ofLists c windows

theorem makes_of_reduceInts (h : r.reduceInts c windows = .ok d) : Makes c windows d := by
  cases r with
  | sum =>
      obtain ⟨sums, hsums, h⟩ := bind_eq_ok_iff.mp h
      cases h
      exact .ints ((List.length_map _).trans (mapM_eq_ok_iff.mp hsums).length_eq.symm)
  | max | min =>
      cases h
      exact .ints (List.length_map _)
  | mean | count | identity =>
      cases h
      exact .floats (List.length_map _)

theorem makes_of_reduceNumbers (h : r.reduceNumbers c windows = .ok d) : Makes c windows d := by
  unfold reduceNumbers at h
  split at h
  · exact makes_of_reduceInts h
  · split at h
    · cases h
      exact .floats (List.length_map _)
    · cases h

theorem makes_of_reduce (h : r.reduce c windows = .ok d) : Makes c windows d := by
  cases r with
  | count =>
      cases h
      exact .ints (List.length_map _)
  | identity =>
      dsimp only [reduce] at h
      split at h
      · cases h
        exact .lists
      · cases h
  | sum | max | min | mean => exact makes_of_reduceNumbers h

/-- A reducer that makes a column of a column supports its type. -/
theorem supports_of_reduce (h : r.reduce c windows = .ok d) : r.supports c.type = true := by
  have hnumeric : r.reduceNumbers c windows = .ok d → c.type.isNumeric = true := by
    intro h
    unfold reduceNumbers at h
    split at h
    · next htype =>
        rw [htype]
        rfl
    · split at h
      · assumption
      · cases h
  cases r with
  | count | identity => rfl
  | sum | max | min | mean => exact hnumeric h

end Reducer

/-! ### Summaries -/

theorem Table.ofHeight?_eq_some_iff {height : Nat} {columns : List Column} {t : Table} :
    ofHeight? height columns = some t ↔ t.height = height ∧ t.columns = columns := by
  unfold ofHeight?
  split
  · rw [Option.some.injEq]
    constructor
    · rintro rfl
      exact ⟨rfl, rfl⟩
    · rintro ⟨rfl, rfl⟩
      rfl
  · next huneven =>
      constructor
      · intro h
        cases h
      · rintro ⟨rfl, rfl⟩
        exact absurd t.uniform huneven

theorem Table.names_of_groupColumns {t : Table} {names : List String} {columns : List Column}
    (h : t.groupColumns names = .ok columns) : columns.map (·.name) = names := by
  have hnames : columns.map (·.name) = names.map id := by
    apply map_eq_map_of_forall₂
    apply (mapM_eq_ok_iff.mp h).imp
    intro name c hc
    have hfound : t.columns.find? (·.name = name) = some c := elim_eq_ok_iff.mp hc
    simpa using List.find?_some hfound
  rw [hnames, List.map_id]

namespace Resampler

variable {r : Resampler} {line : Timeline} {windows : List Window} {s : Summary}

/-- The names of the columns before the reduced ones. -/
def leadingNames (r : Resampler) : List String :=
  r.spec.groupBy ++ ((if r.boundaries then [lowerName, upperName] else []) ++ [r.spec.timeColumn])

/-- The number of columns before the reduced ones. -/
def leading (r : Resampler) : Nat := r.leadingNames.length

theorem names_timeColumns (r : Resampler) (axis : TimeAxis) (windows : List Window) :
    (r.timeColumns axis windows).map (·.name) =
      (if r.boundaries then [lowerName, upperName] else []) ++ [r.spec.timeColumn] := by
  unfold timeColumns
  cases r.boundaries <;> rfl

/-- A column of times holds an instant for each window. -/
theorem exists_of_mem_timeColumns {axis : TimeAxis} {c : Column}
    (h : c ∈ r.timeColumns axis windows) :
    ∃ name, ∃ instant : Window → Int, c = axis.column name (windows.map instant) := by
  rcases List.mem_append.mp h with h | h
  · cases hboundaries : r.boundaries with
    | false => simp [hboundaries] at h
    | true =>
        rw [hboundaries, if_pos rfl] at h
        rcases List.mem_pair.mp h with rfl | rfl
        · exact ⟨_, _, rfl⟩
        · exact ⟨_, _, rfl⟩
  · exact ⟨_, _, List.mem_singleton.mp h⟩

theorem type_of_mem_timeColumns {axis : TimeAxis} {c : Column}
    (h : c ∈ r.timeColumns axis windows) : c.type = axis.columnType := by
  obtain ⟨name, instant, rfl⟩ := exists_of_mem_timeColumns h
  rfl

/-- The columns of the windows before the reduced ones: the keys of the windows, then
their times. -/
def leadingColumns (r : Resampler) (keys : List Column) (axis : TimeAxis)
    (windows : List Window) : List Column :=
  groupColumns keys windows ++ r.timeColumns axis windows

theorem names_leadingColumns {t : Table} {keys : List Column} {axis : TimeAxis}
    (h : t.groupColumns r.spec.groupBy = .ok keys) :
    (r.leadingColumns keys axis windows).map (·.name) = r.leadingNames := by
  rw [leadingColumns, List.map_append, names_timeColumns, groupColumns, List.map_map]
  exact congrArg (· ++ _) (Table.names_of_groupColumns h)

theorem length_leadingColumns {t : Table} {keys : List Column} {axis : TimeAxis}
    (h : t.groupColumns r.spec.groupBy = .ok keys) :
    (r.leadingColumns keys axis windows).length = r.leading := by
  rw [leading, ← names_leadingColumns h, List.length_map]

/-- The reduced columns of a column: one for each reducer, with a name of its own. -/
def Reduces (r : Resampler) (windows : List Window) (name : String) (c : Column)
    (columns : List Column) : Prop :=
  r.reducers.Forall₂ (fun named d => ∃ reduced,
    named.reducer.reduce c (windows.map (·.rows)) = .ok reduced ∧
      { reduced with name := named.columnName name (r.reducers.length > 1) } = d) columns

theorem reduceColumn_eq_ok_iff {t : Table} {name : String} {columns : List Column} :
    r.reduceColumn t windows name = .ok columns ↔
      ∃ c, t.column? name = some c ∧ r.Reduces windows name c columns := by
  unfold reduceColumn
  cases t.column? name with
  | none => exact ⟨nofun, nofun⟩
  | some c =>
      simp only [mapM_eq_ok_iff, bind_eq_ok_iff, Option.some.injEq, exists_eq_left', Reduces]
      apply Iff.of_eq
      congr 1
      funext named d
      apply propext
      exact exists_congr fun reduced => and_congr_right fun _ => ⟨Except.ok.inj, congrArg Except.ok⟩

theorem Reduces.supports {name : String} {c : Column} {columns : List Column}
    (h : r.Reduces windows name c columns) :
    ∀ named ∈ r.reducers, named.reducer.supports c.type = true := by
  intro named hnamed
  obtain ⟨i, hi⟩ := List.mem_iff_getElem?.mp hnamed
  obtain ⟨_, -, reduced, hreduced, -⟩ := getElem?_of_forall₂ h hi
  exact Reducer.supports_of_reduce hreduced

/-! ### Columns to reduce -/

section Targets

variable {t : Table} {names targets : List String} {name : String}

theorem reserves_eq_false_iff :
    r.reserves name = false ↔ name ∉ r.spec.timeColumn :: r.spec.groupBy := by
  simp [reserves]

/-- Columns that are asked for are reduced, and no others. -/
theorem targetNames_eq_of_targets (htargets : r.targets = some targets)
    (h : r.targetNames t = .ok names) : names = targets := by
  rw [targetNames, htargets] at h
  obtain ⟨-, -, h⟩ := bind_eq_ok_iff.mp h
  exact (Except.ok.inj h).symm

/-- Unless columns are asked for, all columns that suit the reducers are reduced, except for
those of times and groups. -/
theorem mem_targetNames_iff (htargets : r.targets = none) (h : r.targetNames t = .ok names) :
    name ∈ names ↔ r.reserves name = false ∧ ∃ c ∈ t.columns, c.name = name ∧
      ∀ named ∈ r.reducers, named.reducer.supports c.type = true := by
  rw [targetNames, htargets] at h
  rw [← Except.ok.inj h]
  simp only [reserves_eq_false_iff, Table.schema, List.filter_map, List.map_map, List.mem_map,
    List.mem_filter, Function.comp_apply, Bool.and_eq_true, decide_eq_true_eq, List.all_eq_true,
    forall_exists_index, and_imp, forall_apply_eq_imp_iff₂]
  constructor
  · rintro ⟨c, ⟨hc, hkept, hsuits⟩, rfl⟩
    exact ⟨hkept, c, hc, rfl, hsuits⟩
  · rintro ⟨hkept, c, hc, rfl, hsuits⟩
    exact ⟨c, ⟨hc, hkept, hsuits⟩, rfl⟩

/-- No column of times or groups is reduced, unless it is asked for. -/
theorem reserves_of_mem_targetNames
    (htargets : ∀ targets, r.targets = some targets → ∀ name ∈ targets, r.reserves name = false)
    (h : r.targetNames t = .ok names) (hname : name ∈ names) : r.reserves name = false := by
  cases hexplicit : r.targets with
  | some targets =>
      rw [targetNames_eq_of_targets hexplicit h] at hname
      exact htargets targets hexplicit name hname
  | none => exact ((mem_targetNames_iff hexplicit h).mp hname).1

end Targets

/-- A summary has the columns before the reduced ones, and then the reduced ones. -/
theorem summarize_eq_ok_iff : r.summarize line windows = .ok s ↔
    ∃ names keys reduced, r.targetNames line.table = .ok names ∧
      line.table.groupColumns r.spec.groupBy = .ok keys ∧
      names.mapM (r.reduceColumn line.table windows) = .ok reduced ∧
      s.table.height = windows.length ∧
      s.table.columns = r.leadingColumns keys line.axis windows ++ reduced.flatten ∧
      s.table.Admissible ∧
      s.aggregated = (List.range reduced.flatten.length).map (r.leading + ·) := by
  constructor
  · intro h
    obtain ⟨names, hnames, h⟩ := bind_eq_ok_iff.mp h
    obtain ⟨keys, hkeys, h⟩ := bind_eq_ok_iff.mp h
    obtain ⟨reduced, hreduced, h⟩ := bind_eq_ok_iff.mp h
    dsimp only at h
    split at h
    · next table htable =>
        split at h
        · next hadmissible =>
            cases h
            obtain ⟨hheight, hcolumns⟩ := Table.ofHeight?_eq_some_iff.mp htable
            have hleading : (r.leadingColumns keys line.axis windows).length = r.leading :=
              length_leadingColumns hkeys
            refine ⟨names, keys, reduced, hnames, hkeys, hreduced, hheight, hcolumns,
              hadmissible, ?_⟩
            rw [← hleading]
            rfl
        · cases h
    · cases h
  · rintro ⟨names, keys, reduced, hnames, hkeys, hreduced, hheight, hcolumns, hadmissible,
      haggregated⟩
    have htable : Table.ofHeight? windows.length
        (groupColumns keys windows ++ r.timeColumns line.axis windows ++ reduced.flatten) =
          some s.table := Table.ofHeight?_eq_some_iff.mpr ⟨hheight, hcolumns⟩
    have hleading : (groupColumns keys windows ++ r.timeColumns line.axis windows).length =
        r.leading := length_leadingColumns hkeys
    apply bind_eq_ok_iff.mpr ⟨names, hnames, _⟩
    apply bind_eq_ok_iff.mpr ⟨keys, hkeys, _⟩
    apply bind_eq_ok_iff.mpr ⟨reduced, hreduced, _⟩
    dsimp only
    rw [htable, hleading, ← haggregated]
    exact if_pos hadmissible

theorem takesNulls_of_reduceColumn {t : Table} {name : String} {columns : List Column}
    (h : r.reduceColumn t windows name = .ok columns) : ∀ c ∈ columns, c.TakesNulls := by
  obtain ⟨column, -, h⟩ := reduceColumn_eq_ok_iff.mp h
  intro c hc
  obtain ⟨named, -, reduced, hreduced, rfl⟩ := exists_of_forall₂_right h hc
  have htakes := (Reducer.makes_of_reduce hreduced).takesNulls
  exact ⟨htakes.1, htakes.2⟩

/-- A table with a row for each window: the times of the windows, after the keys of their
groups, and then columns that take nulls. -/
structure Summarizes (r : Resampler) (axis : TimeAxis) (windows : List Window) (s : Summary) :
    Prop where
  height : s.table.height = windows.length
  names : (s.table.schema.take r.leading).map (·.name) = r.leadingNames
  times : (s.table.columns.take r.leading).drop r.spec.groupBy.length = r.timeColumns axis windows
  aggregated : ∀ j, j ∈ s.aggregated ↔ r.leading ≤ j ∧ j < s.table.columns.length
  reduced : ∀ j c, s.table.columns[j]? = some c → r.leading ≤ j → c.TakesNulls
  admissible : s.table.Admissible

theorem summarizes_of_summarize (h : r.summarize line windows = .ok s) :
    r.Summarizes line.axis windows s := by
  obtain ⟨targets, keys, reduced, -, hkeys, hreduced, hheight, hcolumns, hadmissible, haggregated⟩ :=
    summarize_eq_ok_iff.mp h
  have hleading : (r.leadingColumns keys line.axis windows).length = r.leading :=
    length_leadingColumns hkeys
  have htake : s.table.columns.take r.leading = r.leadingColumns keys line.axis windows := by
    rw [hcolumns]
    exact List.take_left' hleading
  refine ⟨hheight, ?_, ?_, ?_, ?_, hadmissible⟩
  · rw [Table.schema, ← List.map_take, htake, List.map_map]
    exact names_leadingColumns hkeys
  · have hgroups : (groupColumns keys windows).length = r.spec.groupBy.length := by
      rw [groupColumns, List.length_map, ← Table.names_of_groupColumns hkeys, List.length_map]
    rw [htake]
    exact List.drop_left' hgroups
  · intro j
    have hlength : s.table.columns.length = r.leading + reduced.flatten.length := by
      rw [hcolumns, List.length_append, hleading]
    rw [hlength, haggregated]
    simp only [List.mem_map, List.mem_range]
    constructor
    · rintro ⟨i, hi, rfl⟩
      omega
    · rintro ⟨hle, hlt⟩
      exact ⟨j - r.leading, by omega, by omega⟩
  · intro j c hc hj
    rw [hcolumns, List.getElem?_append_right (hleading.symm ▸ hj)] at hc
    obtain ⟨columns, hmem, hc⟩ := List.mem_flatten.mp (List.mem_of_getElem? hc)
    obtain ⟨name, -, hname⟩ := exists_of_mapM_eq_ok hreduced hmem
    exact takesNulls_of_reduceColumn hname c hc

end Resampler

end Cadence
