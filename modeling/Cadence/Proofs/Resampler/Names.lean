import Cadence.Proofs.Reducer.Names
import Cadence.Proofs.Resampler.Policies
import Cadence.Proofs.Table.TimeOrder

/-!
# Names of resampled columns

The columns of a result are named before any row is looked at: by the groups, the ends of the
windows if they are wanted, the times, and then by the columns to reduce and their reducers.
Settings keep groups, times and columns to reduce apart. What they leave open are columns to
reduce that are named twice, the two names of the ends, and names that a reduced column takes
from a group or from the times; the names of a result differ unless one of these is the case.
-/

namespace Cadence

/-! ### Schemas -/

theorem Policy.schema_of_resolve {policy : Policy} {t out : Table} {flags : List Bool}
    {bounds : List Bounds} {aggregated : List Nat} {zone : Zone}
    (h : (policy.resolve t flags bounds aggregated zone).outcome = .ok out) :
    out.schema = t.schema := by
  unfold resolve at h
  split at h
  · cases h
    rfl
  · dsimp only at h
    cases policy with
    | keep =>
        cases h
        rfl
    | drop =>
        dsimp only [apply] at h
        split at h
        · cases h
        · cases h
          exact t.schema_select _
    | null =>
        dsimp only [apply] at h
        split at h
        · cases h
        · split at h
          · cases h
            exact t.schema_nullAt flags aggregated
          · cases h
    | fail => cases h

theorem Timeline.schema_of_ofTable [Zone.Database] {t : Table} {name : String} {line : Timeline}
    (h : ofTable t name = .ok line) : line.table.schema = t.schema := by
  obtain ⟨axis, -, rfl⟩ := ofTable_eq_ok_iff.mp h
  exact t.schema_select _

namespace Resampler

variable {r : Resampler} {filter : Option RowFilter} {line : Timeline} {windows : List Window}
variable {t out : Table} {s : Summary} {targets : List String} {name : String}

/-- A filter that takes rows leaves the columns of a table what they are. -/
theorem schema_of_rowsOf [Zone.Database]
    (hfilter : ∀ f ∈ filter, ∀ u v, (f u).outcome = .ok v → v.schema = u.schema)
    (h : r.rowsOf filter t = .ok line) : line.table.schema = t.schema := by
  obtain ⟨all, hall, h⟩ := bind_eq_ok_iff.mp h
  cases filter with
  | none =>
      cases h
      exact Timeline.schema_of_ofTable hall
  | some f =>
      rw [filtered, Journaled.outcome_bind] at h
      obtain ⟨rows, hrows, h⟩ := bind_eq_ok_iff.mp h
      rw [Timeline.schema_of_ofTable h, hfilter f rfl _ _ hrows, Timeline.schema_of_ofTable hall]

/-- The result of a run has the columns of a summary of the rows. -/
theorem exists_summary_of_run [Zone.Database] (h : (r.run filter t).outcome = .ok out) :
    ∃ rows a s, r.rowsOf filter t = .ok rows ∧
      (r.spec.assign rows.table rows.axis).outcome = .ok a ∧
      r.summarize rows a.windows = .ok s ∧ out.schema = s.table.schema := by
  obtain ⟨rows, a, s, flags, hrows, ha, hs, h⟩ := exists_resolved_of_run h
  exact ⟨rows, a, s, hrows, ha, hs, Policy.schema_of_resolve h⟩

/-! ### Names of columns -/

/-- The names of the reduced columns. -/
def reducedNames (r : Resampler) (targets : List String) : List String :=
  targets.flatMap (NamedReducer.columnNames r.reducers)

theorem Reduces.names {c : Column} {columns : List Column}
    (h : r.Reduces windows name c columns) :
    columns.map (·.name) = NamedReducer.columnNames r.reducers name := by
  apply map_eq_map_of_forall₂
  apply h.imp
  rintro named d ⟨reduced, -, rfl⟩
  rfl

theorem names_of_summarize (h : r.summarize line windows = .ok s)
    (htargets : r.targetNames line.table = .ok targets) :
    s.table.schema.map (·.name) = r.leadingNames ++ r.reducedNames targets := by
  obtain ⟨names, keys, reduced, hnames, hkeys, hreduced, -, hcolumns, -⟩ :=
    summarize_eq_ok_iff.mp h
  cases hnames.symm.trans htargets
  have hcolumnNames : reduced.map (·.map (·.name)) =
      targets.map (NamedReducer.columnNames r.reducers) := by
    apply map_eq_map_of_forall₂
    apply (mapM_eq_ok_iff.mp hreduced).imp
    intro name columns hname
    obtain ⟨c, -, hc⟩ := reduceColumn_eq_ok_iff.mp hname
    exact hc.names
  rw [Table.schema, hcolumns, List.map_map, List.map_append, List.map_flatten]
  change (r.leadingColumns keys line.axis windows).map (·.name) ++
    (reduced.map (·.map (·.name))).flatten = _
  rw [names_leadingColumns hkeys, hcolumnNames, reducedNames, List.flatMap_def]

/-! ### Names of their own -/

/-- What is checked when a resampler is set up: groups and times are different columns, none of
which is named to be reduced, and the reducers have names of their own. -/
structure Checked (r : Resampler) : Prop where
  reserved_nodup : (r.spec.timeColumn :: r.spec.groupBy).Nodup
  resolved : NamedReducer.Resolved r.reducers
  targets_free : ∀ names, r.targets = some names → ∀ name ∈ names, r.reserves name = false

/-- What is left open: no column is asked for twice; the names of the ends, if these are wanted,
are those of no group, of no times and of no reduced column that keeps its name; and the names
that several reducers give are those of no group and of no times. -/
structure NamesApart (r : Resampler) (targets : List String) : Prop where
  targets_nodup : ∀ names, r.targets = some names → names.Nodup
  ends_free : r.boundaries = true → ∀ name ∈ [lowerName, upperName],
    r.reserves name = false ∧ (r.reducers.length = 1 → name ∉ targets)
  reduced_free : 1 < r.reducers.length → ∀ target ∈ targets, ∀ named ∈ r.reducers,
    r.reserves (named.columnName target true) = false

/-- The names of the ends, if they are wanted. -/
def endNames (r : Resampler) : List String := if r.boundaries then [lowerName, upperName] else []

theorem mem_endNames_iff :
    name ∈ r.endNames ↔ r.boundaries = true ∧ name ∈ [lowerName, upperName] := by
  unfold endNames
  cases r.boundaries <;> simp

theorem endNames_nodup (r : Resampler) : r.endNames.Nodup := by
  unfold endNames
  cases r.boundaries <;> decide

theorem leadingNames_perm (r : Resampler) :
    r.leadingNames.Perm (r.endNames ++ r.spec.timeColumn :: r.spec.groupBy) := by
  have hcomm : (r.spec.groupBy ++ (r.endNames ++ [r.spec.timeColumn])).Perm
      (r.endNames ++ [r.spec.timeColumn] ++ r.spec.groupBy) := List.perm_append_comm
  rwa [List.append_assoc, List.singleton_append] at hcomm

theorem mem_leadingNames_iff :
    name ∈ r.leadingNames ↔ name ∈ r.endNames ∨ r.reserves name = true := by
  rw [r.leadingNames_perm.mem_iff, List.mem_append]
  simp [reserves]

theorem leadingNames_nodup_iff (h : r.Checked) :
    r.leadingNames.Nodup ↔ ∀ name ∈ r.endNames, r.reserves name = false := by
  rw [r.leadingNames_perm.nodup_iff, List.nodup_append, and_iff_right r.endNames_nodup,
    and_iff_right h.reserved_nodup]
  constructor
  · intro hapart name hname
    rw [reserves_eq_false_iff]
    intro hreserved
    exact hapart name hname name hreserved rfl
  · rintro hfree name hname other hother rfl
    exact reserves_eq_false_iff.mp (hfree name hname) hother

/-- No reducer is named like what the names of the ends end with. -/
theorem columnName_notMem_ends {named : NamedReducer}
    (h : Reducer.ofName? named.name = some named.reducer) (target : String) :
    named.columnName target true ∉ [lowerName, upperName] := by
  have hends : ∀ name ∈ [lowerName, upperName], ∃ c,
      name = (NamedReducer.mk "boundary" .sum).columnName c true := by
    intro name hname
    rcases List.mem_pair.mp hname with rfl | rfl
    · exact ⟨"_lower", by decide⟩
    · exact ⟨"_upper", by decide⟩
  intro hmem
  obtain ⟨c, hc⟩ := hends _ hmem
  have hname := (NamedReducer.columnName_inj (Reducer.notMem_of_ofName? h) (by decide) hc).2
  rw [hname] at h
  cases h

theorem reducedNames_of_length_eq_one (h : r.reducers.length = 1) (targets : List String) :
    r.reducedNames targets = targets := by
  have hkept : NamedReducer.columnNames r.reducers = fun target => [target] :=
    funext (NamedReducer.columnNames_of_length_eq_one h)
  rw [reducedNames, hkept, List.flatMap_singleton']

theorem mem_reducedNames_iff (h : 1 < r.reducers.length) : name ∈ r.reducedNames targets ↔
    ∃ target ∈ targets, ∃ named ∈ r.reducers, named.columnName target true = name := by
  simp only [reducedNames, List.mem_flatMap, NamedReducer.columnNames_of_one_lt_length h,
    List.mem_map]

/-- A single reducer leaves names as they are, and only the ends may be called like a column.
Several reducers give names that no end has, and only groups and times may be called so. -/
theorem leadingNames_apart_iff (h : r.Checked)
    (htargets : ∀ target ∈ targets, r.reserves target = false) :
    (∀ a ∈ r.leadingNames, ∀ b ∈ r.reducedNames targets, a ≠ b) ↔
      (∀ name ∈ r.endNames, r.reducers.length = 1 → name ∉ targets) ∧
      (1 < r.reducers.length → ∀ target ∈ targets, ∀ named ∈ r.reducers,
        r.reserves (named.columnName target true) = false) := by
  rcases h.resolved.length_eq_one_or with hone | hseveral
  · rw [reducedNames_of_length_eq_one hone, and_iff_left (fun hseveral => by omega)]
    constructor
    · intro hapart name hname _ htarget
      exact hapart name (mem_leadingNames_iff.mpr (.inl hname)) name htarget rfl
    · rintro hfree name hname target htarget rfl
      rcases mem_leadingNames_iff.mp hname with hname | hname
      · exact hfree name hname hone htarget
      · rw [htargets name htarget] at hname
        cases hname
  · rw [and_iff_right (fun name _ hone => by omega)]
    constructor
    · intro hapart _ target htarget named hnamed
      apply Bool.eq_false_iff.mpr
      intro hreserved
      exact hapart _ (mem_leadingNames_iff.mpr (.inr hreserved)) _
        ((mem_reducedNames_iff hseveral).mpr ⟨target, htarget, named, hnamed, rfl⟩) rfl
    · rintro hfree name hname _ hreduced rfl
      obtain ⟨target, htarget, named, hnamed, rfl⟩ := (mem_reducedNames_iff hseveral).mp hreduced
      rcases mem_leadingNames_iff.mp hname with hname | hname
      · exact columnName_notMem_ends (h.resolved.known named hnamed) target
          (mem_endNames_iff.mp hname).2
      · rw [hfree hseveral target htarget named hnamed] at hname
        cases hname

/-- Columns that are not asked for by name are found once each. -/
theorem targets_nodup_iff (hnames : (t.schema.map (·.name)).Nodup)
    (htargets : r.targetNames t = .ok targets) :
    targets.Nodup ↔ ∀ names, r.targets = some names → names.Nodup := by
  cases hexplicit : r.targets with
  | some names =>
      rw [targetNames_eq_of_targets hexplicit htargets]
      simp
  | none =>
      rw [targetNames, hexplicit] at htargets
      cases htargets
      refine iff_of_true (hnames.sublist (List.filter_sublist.map _)) ?_
      intro names h
      cases h

/-- The columns of a result have names of their own exactly when what is left open is. -/
theorem names_nodup_iff (h : r.Checked) (hnames : (t.schema.map (·.name)).Nodup)
    (htargets : r.targetNames t = .ok targets) :
    (r.leadingNames ++ r.reducedNames targets).Nodup ↔ r.NamesApart targets := by
  have hfree : ∀ target ∈ targets, r.reserves target = false :=
    fun target htarget => reserves_of_mem_targetNames h.targets_free htargets htarget
  rw [List.nodup_append, leadingNames_nodup_iff h, leadingNames_apart_iff h hfree,
    reducedNames, h.resolved.flatMap_columnNames_nodup_iff, targets_nodup_iff hnames htargets]
  constructor
  · rintro ⟨hends, hnodup, huntargeted, hreduced⟩
    refine ⟨hnodup, ?_, hreduced⟩
    intro hwanted name hname
    have hend := mem_endNames_iff.mpr ⟨hwanted, hname⟩
    exact ⟨hends name hend, huntargeted name hend⟩
  · rintro ⟨hnodup, hends, hreduced⟩
    have hends' : ∀ name ∈ r.endNames,
        r.reserves name = false ∧ (r.reducers.length = 1 → name ∉ targets) :=
      fun name hname => hends (mem_endNames_iff.mp hname).1 name (mem_endNames_iff.mp hname).2
    exact ⟨fun name hname => (hends' name hname).1, hnodup,
      fun name hname => (hends' name hname).2, hreduced⟩

end Resampler

end Cadence
