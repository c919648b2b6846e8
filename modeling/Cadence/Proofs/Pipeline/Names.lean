import Cadence.Proofs.Pipeline.Composition
import Cadence.Proofs.Resampler.Names

/-!
# Names of columns of results

Settings that are checked, and the resamplers that are made of them, keep groups, times, columns
to reduce and reducers apart. The columns of a result get their names from these, so the names
differ as far as the checks reach, whatever the rows are.
-/

namespace Cadence

/-! ### Checks -/

namespace ResampleSettings

/-- Groups without a fault are different columns, and none of them is that of the times. -/
theorem groupFault?_eq_none {timeColumn : String} {earlier columns : List String}
    (h : groupFault? timeColumn earlier columns = none) :
    timeColumn ∉ columns ∧ columns.Nodup ∧ ∀ column ∈ columns, column ∉ earlier := by
  induction columns generalizing earlier with
  | nil => exact ⟨nofun, List.nodup_nil, nofun⟩
  | cons column rest ih =>
      unfold groupFault? at h
      split at h
      · cases h
      · next htime =>
          split at h
          · cases h
          · next hearlier =>
              obtain ⟨htimes, hrest, hnew⟩ := ih h
              refine ⟨?_, ?_, ?_⟩
              · exact List.not_mem_cons_of_ne_of_not_mem (Ne.symm htime) htimes
              · refine List.nodup_cons.mpr ⟨?_, hrest⟩
                intro hmem
                exact hnew column hmem List.mem_cons_self
              · intro other hother
                rcases List.mem_cons.mp hother with rfl | hother
                · exact hearlier
                · intro hmem
                  exact hnew other hother (List.mem_cons_of_mem _ hmem)

theorem reserved_nodup_of_fault? {s : ResampleSettings} (h : s.fault? = none) :
    (s.timeColumn :: s.groupBy).Nodup := by
  unfold fault? at h
  split at h
  · cases h
  · split at h
    · cases h
    · obtain ⟨htime, hgroups, -⟩ := groupFault?_eq_none h
      exact List.nodup_cons.mpr ⟨htime, hgroups⟩

end ResampleSettings

namespace Resampler

variable {r r' : Resampler}

theorem Checked.withStartOffset {text : String} (hr : r.Checked)
    (h : r.withStartOffset text = .ok r') : r'.Checked := by
  obtain ⟨spec, hspec, h⟩ := bind_eq_ok_iff.mp h
  obtain ⟨offset, -, hspec⟩ := bind_eq_ok_iff.mp hspec
  cases hspec
  cases h
  exact ⟨hr.reserved_nodup, hr.resolved, hr.targets_free⟩

theorem Checked.withTargets {columns : List String} (hr : r.Checked)
    (h : r.withTargets columns = .ok r') : r'.Checked := by
  unfold Resampler.withTargets at h
  split at h
  · cases h
  · next hfree =>
      cases h
      refine ⟨hr.reserved_nodup, hr.resolved, ?_⟩
      intro names hnames name hname
      cases hnames
      exact Bool.eq_false_iff.mpr (List.find?_eq_none.mp hfree name hname)

theorem checked_of_ofSettings {s : ResampleSettings} (hfault : s.fault? = none)
    (h : ofSettings s = .ok r) : r.Checked := by
  obtain ⟨every, period, reducers, moved, hreducers, hmoved, h⟩ := exists_choices_of_ofSettings h
  have hmoved : moved.Checked := by
    refine withOptional_of Checked.withStartOffset ?_ hmoved
    exact ⟨ResampleSettings.reserved_nodup_of_fault? hfault,
      ReducerEntry.resolved_of_resolveAll hreducers, nofun⟩
  exact withOptional_of Checked.withTargets hmoved h

end Resampler

/-! ### Pipelines -/

theorem TimeFilter.schema_of_transform [Zone.Database] {f : TimeFilter} {t out : Table}
    (h : (f.transform t).outcome = .ok out) : out.schema = t.schema := by
  rw [transform, Journaled.outcome_noting] at h
  obtain ⟨mask, -, h⟩ := bind_eq_ok_iff.mp h
  cases h
  exact t.schema_select _

namespace Pipeline

variable {s : ProjectSettings} {p : Pipeline} {r : Resampler} {t out : Table}

theorem exists_settings_of_stages (h : stages s = .ok p) (hresampler : p.resampler = some r) :
    ∃ g, s.resample = some g ∧ Resampler.ofSettings g = .ok r := by
  unfold stages at h
  split at h
  · cases h
  · obtain ⟨filter, -, h⟩ := bind_eq_ok_iff.mp h
    obtain ⟨resampler, hstage, h⟩ := bind_eq_ok_iff.mp h
    cases h
    cases hresample : s.resample with
    | none =>
        rw [hresample] at hstage
        cases hstage
        cases hresampler
    | some g =>
        rw [hresample] at hstage
        obtain ⟨r', hr', hstage⟩ := bind_eq_ok_iff.mp (mapError_eq_ok_iff.mp hstage)
        cases hstage
        cases hresampler
        exact ⟨g, rfl, hr'⟩

/-- The resampler of checked settings is checked. -/
theorem checked_of_ofSettings (hvalid : s.fault? = none) (hbuilt : (ofSettings s).outcome = .ok p)
    (hresampler : p.resampler = some r) : r.Checked := by
  rw [outcome_ofSettings] at hbuilt
  obtain ⟨g, hg, hr⟩ := exists_settings_of_stages hbuilt hresampler
  have hfault := (Option.or_eq_none_iff.mp hvalid).1
  rw [hg] at hfault
  exact Resampler.checked_of_ofSettings hfault hr

/-- A pipeline with a resampler runs it, with a filter that takes rows or without one. -/
theorem exists_run_of_run [Zone.Database]
    (hresampler : p.resampler = some r) (h : (p.run t).outcome = .ok out) :
    ∃ filter : Option RowFilter,
      (∀ f ∈ filter, ∀ u v, (f u).outcome = .ok v → v.schema = u.schema) ∧
      (r.run filter t).outcome = .ok out := by
  rw [outcome_run, mapError_eq_ok_iff, transform, hresampler] at h
  cases hfilter : p.filter with
  | none =>
      rw [hfilter] at h
      exact ⟨none, nofun, h⟩
  | some f =>
      rw [hfilter] at h
      refine ⟨some f.transform, ?_, h⟩
      intro filter hfilter u v huv
      cases hfilter
      exact f.schema_of_transform huv

/-- The columns of a result are those of the groups, the ends and the times, and one for each
column to reduce and each reducer. Given a table whose columns have names of their own, those of
the result do exactly when no column is asked for twice and the names of ends and of reduced
columns are not those of groups, times or other columns. -/
theorem run_names_nodup_iff [Zone.Database]
    (hvalid : s.fault? = none) (hbuilt : (ofSettings s).outcome = .ok p)
    (hresampler : p.resampler = some r) (hnames : (t.schema.map (·.name)).Nodup)
    (hrun : (p.run t).outcome = .ok out) :
    ∃ targets, r.targetNames t = .ok targets ∧
      out.schema.map (·.name) = r.leadingNames ++ r.reducedNames targets ∧
      ((out.schema.map (·.name)).Nodup ↔ r.NamesApart targets) := by
  have hchecked := checked_of_ofSettings hvalid hbuilt hresampler
  obtain ⟨filter, hfilter, hrun⟩ := exists_run_of_run hresampler hrun
  obtain ⟨rows, a, summary, hrows, -, hsummary, hschema⟩ := Resampler.exists_summary_of_run hrun
  obtain ⟨targets, -, -, htargets, -⟩ := Resampler.summarize_eq_ok_iff.mp hsummary
  have hout : out.schema.map (·.name) = r.leadingNames ++ r.reducedNames targets := by
    rw [hschema, Resampler.names_of_summarize hsummary htargets]
  have hsame : r.targetNames t = .ok targets := by
    rw [← htargets, Resampler.targetNames, Resampler.targetNames,
      Resampler.schema_of_rowsOf hfilter hrows]
  refine ⟨targets, hsame, hout, ?_⟩
  rw [hout, Resampler.names_nodup_iff hchecked hnames hsame]

/-- Two reducers and the ends of days: all columns of the result have names of their own. -/
theorem run_names_nodup_iff_days :
    let g : ResampleSettings :=
      { timeColumn := "ts", every := "1d", groupBy := ["site"], boundaries := true
        reducers := .many [.named "sum", .named "max"] }
    let s : ProjectSettings := { resample := some g }
    let t : Table :=
      ⟨1, [⟨⟨"ts", .timestamp .nanosecond none, false⟩, [.int 0], by decide⟩,
        ⟨⟨"site", .text, true⟩, [.text "north"], by decide⟩,
        ⟨⟨"v", .int64, true⟩, [.int 1], by decide⟩], by decide⟩
    s.fault? = none ∧ (t.schema.map (·.name)).Nodup ∧
      ∃ p r out targets, (ofSettings s).outcome = .ok p ∧ p.resampler = some r ∧
        (p.run t).outcome = .ok out ∧ r.targetNames t = .ok targets ∧ r.NamesApart targets := by
  intro g s t
  have hvalid : s.fault? = none := by decide
  have hnames : (t.schema.map (·.name)).Nodup := by decide
  have hran : ((ofSettings s).outcome.bind fun p => (p.run t).outcome).map
      (fun out => out.schema.map (·.name)) =
      .ok ["site", "_lower_boundary", "_upper_boundary", "ts", "v_sum", "v_max"] := by decide +kernel
  have hbuilt : (ofSettings s).outcome.map (·.resampler.isSome) = .ok true := by decide +kernel
  obtain ⟨p, hp, hresampler⟩ := map_eq_ok_iff.mp hbuilt
  obtain ⟨r, hr⟩ := Option.isSome_iff_exists.mp hresampler
  obtain ⟨out, hout, hcolumns⟩ := map_eq_ok_iff.mp hran
  rw [hp] at hout
  obtain ⟨targets, htargets, -, hapart⟩ := run_names_nodup_iff hvalid hp hr hnames hout
  refine ⟨hvalid, hnames, p, r, out, targets, hp, hr, hout, htargets, hapart.mp ?_⟩
  rw [hcolumns]
  decide

/-- A group that is called like a column with its reducer gives two columns of one name. -/
theorem run_names_of_group_like_sum :
    let g : ResampleSettings :=
      { timeColumn := "ts", every := "1d", groupBy := ["v_sum"]
        reducers := .many [.named "sum", .named "max"] }
    let s : ProjectSettings := { resample := some g }
    let t : Table :=
      ⟨1, [⟨⟨"ts", .timestamp .nanosecond none, false⟩, [.int 0], by decide⟩,
        ⟨⟨"v_sum", .int64, true⟩, [.int 7], by decide⟩,
        ⟨⟨"v", .int64, true⟩, [.int 1], by decide⟩], by decide⟩
    s.fault? = none ∧ (t.schema.map (·.name)).Nodup ∧
      ∃ p out, (ofSettings s).outcome = .ok p ∧ p.resampler.isSome ∧ (p.run t).outcome = .ok out ∧
        out.schema.map (·.name) = ["v_sum", "ts", "v_sum", "v_max"] ∧
        ¬(out.schema.map (·.name)).Nodup := by
  intro g s t
  have hran : ((ofSettings s).outcome.bind fun p => (p.run t).outcome).map
      (fun out => out.schema.map (·.name)) = .ok ["v_sum", "ts", "v_sum", "v_max"] := by decide +kernel
  have hbuilt : (ofSettings s).outcome.map (·.resampler.isSome) = .ok true := by decide +kernel
  obtain ⟨p, hp, hresampler⟩ := map_eq_ok_iff.mp hbuilt
  obtain ⟨out, hout, hcolumns⟩ := map_eq_ok_iff.mp hran
  rw [hp] at hout
  refine ⟨by decide, by decide, p, out, hp, hresampler, hout, hcolumns, ?_⟩
  rw [hcolumns]
  decide

end Pipeline

end Cadence
