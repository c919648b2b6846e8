import Cadence.Proofs.Resampler.Summary
import Cadence.Settings.Stages
import Mathlib.Data.List.Induction

/-!
# Setting up a resampler

A resampler is created from a time column and a window length. Choices about it are then
made in any order, each as often as one likes, and the last choice of a kind holds. The
columns to reduce are checked against the groups when they are named, and a later choice
of groups is not checked against them.
-/

namespace Cadence.Resampler

/-- A choice about a resampler. -/
inductive Setup
  | closed (closed : Closed)
  | label (label : Label)
  | startOffset (text : String)
  | groupBy (columns : List String)
  | reducers (entries : List ReducerEntry)
  | targets (columns : List String)
  | policy (policy : Policy)
  | detection (detection : Detection)
  | boundaries (boundaries : Bool)
deriving DecidableEq, Repr

/-- Makes a choice. -/
def Setup.apply (r : Resampler) : Setup → Except Error Resampler
  | .closed side => .ok (r.withClosed side)
  | .label kind => .ok (r.withLabel kind)
  | .startOffset text => r.withStartOffset text
  | .groupBy columns => .ok (r.withGroupBy columns)
  | .reducers entries => r.withReducers entries
  | .targets columns => r.withTargets columns
  | .policy p => .ok (r.withPolicy p)
  | .detection d => .ok (r.withDetection d)
  | .boundaries wanted => .ok (r.withBoundaries wanted)

/-- The columns that a choice names as columns to reduce. -/
def Setup.targets? : Setup → Option (List String)
  | .targets columns => some columns
  | _ => none

/-- The columns that a choice groups by. -/
def Setup.groupBy? : Setup → Option (List String)
  | .groupBy columns => some columns
  | _ => none

/-- The resampler that comes of some choices, if each of them can be made. -/
def build (timeColumn every : String) (choices : List Setup) : Except Error Resampler := do
  let r ← create timeColumn every
  choices.foldlM Setup.apply r

/-- Some choices lead to the resampler. -/
def Built (r : Resampler) : Prop :=
  ∃ timeColumn every choices, build timeColumn every choices = .ok r

variable {r r' : Resampler} {timeColumn every : String} {choices : List Setup} {choice : Setup}

/-! ### One choice -/

theorem withTargets_eq_ok_iff {columns : List String} : r.withTargets columns = .ok r' ↔
    (∀ name ∈ columns, r.reserves name = false) ∧ { r with targets := some columns } = r' := by
  have hfree : columns.find? r.reserves = none ↔ ∀ name ∈ columns, r.reserves name = false := by
    simp
  rw [withTargets, ← hfree]
  cases columns.find? r.reserves <;> simp

/-- What a choice does to the columns of a resampler. Named columns are free when they are
named. -/
structure Setup.Effect (r : Resampler) (choice : Setup) (r' : Resampler) : Prop where
  timeColumn : r'.spec.timeColumn = r.spec.timeColumn
  every : r'.spec.every = r.spec.every
  period : r'.spec.period = r.spec.period
  groupBy : r'.spec.groupBy = choice.groupBy?.getD r.spec.groupBy
  targets : r'.targets = choice.targets?.or r.targets
  free : ∀ columns ∈ choice.targets?, ∀ name ∈ columns, r'.reserves name = false

theorem Setup.effect_of_apply (h : choice.apply r = .ok r') : choice.Effect r r' := by
  cases choice with
  | closed | label | groupBy | policy | detection | boundaries =>
      cases h
      exact ⟨rfl, rfl, rfl, rfl, rfl, nofun⟩
  | startOffset text =>
      obtain ⟨spec, hspec, h⟩ := bind_eq_ok_iff.mp (show r.withStartOffset text = .ok r' from h)
      obtain ⟨offset, -, hspec⟩ := bind_eq_ok_iff.mp hspec
      cases hspec
      cases h
      exact ⟨rfl, rfl, rfl, rfl, rfl, nofun⟩
  | reducers entries =>
      obtain ⟨reducers, -, h⟩ := bind_eq_ok_iff.mp (show r.withReducers entries = .ok r' from h)
      cases h
      exact ⟨rfl, rfl, rfl, rfl, rfl, nofun⟩
  | targets columns =>
      obtain ⟨hfree, rfl⟩ := withTargets_eq_ok_iff.mp h
      refine ⟨rfl, rfl, rfl, rfl, rfl, ?_⟩
      rintro _ ⟨⟩
      exact hfree

/-! ### All choices -/

theorem create_eq_ok_iff : create timeColumn every = .ok r ↔
    ∃ length period, Duration.parse every = .ok length ∧ Period.ofDuration length = .ok period ∧
      { spec := { timeColumn, every := length, period } } = r := by
  simp only [create, WindowSpec.create, bind_eq_ok_iff, mapError_eq_ok_iff]
  constructor
  · rintro ⟨spec, ⟨length, hlength, period, hperiod, hspec⟩, h⟩
    cases hspec
    exact ⟨length, period, hlength, hperiod, Except.ok.inj h⟩
  · rintro ⟨length, period, hlength, hperiod, rfl⟩
    exact ⟨_, ⟨length, hlength, period, hperiod, rfl⟩, rfl⟩

theorem build_nil : build timeColumn every [] = .ok r ↔
    ∃ length period, Duration.parse every = .ok length ∧ Period.ofDuration length = .ok period ∧
      { spec := { timeColumn, every := length, period } } = r := by
  rw [← create_eq_ok_iff, build]
  cases create timeColumn every <;> exact Iff.rfl

theorem build_append_singleton : build timeColumn every (choices ++ [choice]) = .ok r' ↔
    ∃ r, build timeColumn every choices = .ok r ∧ choice.apply r = .ok r' := by
  simp only [build, bind_eq_ok_iff, List.foldlM_append, List.foldlM_cons, List.foldlM_nil]
  constructor
  · rintro ⟨first, hfirst, r, hr, last, hlast, h⟩
    cases h
    exact ⟨r, ⟨first, hfirst, hr⟩, hlast⟩
  · rintro ⟨r, ⟨first, hfirst, hr⟩, hlast⟩
    exact ⟨first, hfirst, r, hr, r', hlast, rfl⟩

/-- The columns that were named last are to be reduced. -/
theorem targets_of_build (h : build timeColumn every choices = .ok r) :
    r.targets = (choices.filterMap Setup.targets?).getLast? := by
  induction choices using List.reverseRecOn generalizing r with
  | nil =>
      obtain ⟨length, period, -, -, rfl⟩ := build_nil.mp h
      rfl
  | append_singleton choices choice ih =>
      obtain ⟨earlier, hearlier, hchoice⟩ := build_append_singleton.mp h
      rw [(Setup.effect_of_apply hchoice).targets, ih hearlier, List.filterMap_append,
        List.getLast?_append]
      cases hnamed : choice.targets? <;> simp [hnamed]

/-- The groups that were chosen last hold. -/
theorem groupBy_of_build (h : build timeColumn every choices = .ok r) :
    r.spec.groupBy = (choices.filterMap Setup.groupBy?).getLast?.getD [] := by
  induction choices using List.reverseRecOn generalizing r with
  | nil =>
      obtain ⟨length, period, -, -, rfl⟩ := build_nil.mp h
      rfl
  | append_singleton choices choice ih =>
      obtain ⟨earlier, hearlier, hchoice⟩ := build_append_singleton.mp h
      rw [(Setup.effect_of_apply hchoice).groupBy, ih hearlier, List.filterMap_append,
        List.getLast?_append]
      cases hgrouped : choice.groupBy? <;> simp [hgrouped]

/-- The windows are those that the resampler was created with. -/
theorem spec_of_build (h : build timeColumn every choices = .ok r) :
    r.spec.timeColumn = timeColumn ∧ Duration.parse every = .ok r.spec.every ∧
      Period.ofDuration r.spec.every = .ok r.spec.period := by
  induction choices using List.reverseRecOn generalizing r with
  | nil =>
      obtain ⟨length, period, hlength, hperiod, rfl⟩ := build_nil.mp h
      exact ⟨rfl, hlength, hperiod⟩
  | append_singleton choices choice ih =>
      obtain ⟨earlier, hearlier, hchoice⟩ := build_append_singleton.mp h
      have heffect := Setup.effect_of_apply hchoice
      rw [heffect.timeColumn, heffect.every, heffect.period]
      exact ih hearlier

/-- The column of times is never named. -/
theorem timeColumn_notMem_targets_of_build (h : build timeColumn every choices = .ok r) :
    ∀ columns ∈ r.targets, r.spec.timeColumn ∉ columns := by
  induction choices using List.reverseRecOn generalizing r with
  | nil =>
      obtain ⟨length, period, -, -, rfl⟩ := build_nil.mp h
      exact nofun
  | append_singleton choices choice ih =>
      obtain ⟨earlier, hearlier, hchoice⟩ := build_append_singleton.mp h
      have heffect := Setup.effect_of_apply hchoice
      intro columns hcolumns hmem
      cases hnamed : choice.targets? with
      | none =>
          rw [heffect.targets, hnamed, Option.none_or] at hcolumns
          rw [heffect.timeColumn] at hmem
          exact ih hearlier columns hcolumns hmem
      | some named =>
          rw [heffect.targets, hnamed, Option.some_or] at hcolumns
          have hfree := heffect.free columns (hnamed ▸ hcolumns) _ hmem
          exact reserves_eq_false_iff.mp hfree List.mem_cons_self

/-- The last choice of groups takes one of the columns that were named last before it, and
none are named after it. -/
def GroupsTargets (choices : List Setup) : Prop :=
  ∃ before columns after, choices = before ++ .groupBy columns :: after ∧
    (∀ choice ∈ after, choice.groupBy? = none ∧ choice.targets? = none) ∧
    ∃ named ∈ (before.filterMap Setup.targets?).getLast?, ∃ name ∈ named, name ∈ columns

theorem GroupsTargets.append_singleton (h : GroupsTargets choices)
    (hgroupBy : choice.groupBy? = none) (htargets : choice.targets? = none) :
    GroupsTargets (choices ++ [choice]) := by
  obtain ⟨before, columns, after, rfl, hafter, hnamed⟩ := h
  refine ⟨before, columns, after ++ [choice], by simp, ?_, hnamed⟩
  intro later hlater
  rcases List.mem_append.mp hlater with hlater | hlater
  · exact hafter later hlater
  · rw [List.mem_singleton.mp hlater]
    exact ⟨hgroupBy, htargets⟩

/-- Columns to reduce that rows are grouped by were named before the groups were chosen. -/
theorem groupsTargets_of_build (h : build timeColumn every choices = .ok r)
    {columns : List String} {name : String} (hcolumns : columns ∈ r.targets)
    (hname : name ∈ columns) (hgroup : name ∈ r.spec.groupBy) : GroupsTargets choices := by
  induction choices using List.reverseRecOn generalizing r with
  | nil =>
      obtain ⟨length, period, -, -, rfl⟩ := build_nil.mp h
      cases hgroup
  | append_singleton choices choice ih =>
      obtain ⟨earlier, hearlier, hchoice⟩ := build_append_singleton.mp h
      have heffect := Setup.effect_of_apply hchoice
      have htargets := targets_of_build hearlier
      cases choice with
      | targets named =>
          -- They are checked right now.
          rw [heffect.targets] at hcolumns
          have hfree := heffect.free columns hcolumns name hname
          exact absurd (List.mem_cons_of_mem _ hgroup) (reserves_eq_false_iff.mp hfree)
      | groupBy chosen =>
          rw [heffect.targets, htargets] at hcolumns
          rw [heffect.groupBy] at hgroup
          exact ⟨choices, chosen, [], rfl, nofun, columns, hcolumns, name, hname, hgroup⟩
      | closed | label | startOffset | reducers | policy | detection | boundaries =>
          rw [heffect.targets] at hcolumns
          rw [heffect.groupBy] at hgroup
          exact (ih hearlier hcolumns hgroup).append_singleton rfl rfl

/-- However a resampler is set up, it never reduces its column of times. Nor does it reduce
a column that rows are grouped by, unless the column was named first, and the groups were
chosen after that. -/
theorem targets_free_iff_of_build (h : build timeColumn every choices = .ok r) :
    (∀ columns ∈ r.targets, r.spec.timeColumn ∉ columns) ∧
      ((∀ columns ∈ r.targets, ∀ name ∈ columns, name ∉ r.spec.groupBy) ↔
        ¬GroupsTargets choices) := by
  refine ⟨timeColumn_notMem_targets_of_build h, ?_, ?_⟩
  · rintro hfree ⟨before, columns, after, rfl, hafter, named, hnamed, name, hname, hmem⟩
    have hgroups : after.filterMap Setup.groupBy? = [] :=
      List.filterMap_eq_nil_iff.mpr fun choice hchoice => (hafter choice hchoice).1
    have hnames : after.filterMap Setup.targets? = [] :=
      List.filterMap_eq_nil_iff.mpr fun choice hchoice => (hafter choice hchoice).2
    apply hfree named _ name hname
    · have hlast : (before ++ Setup.groupBy columns :: after).filterMap Setup.groupBy? =
          before.filterMap Setup.groupBy? ++ [columns] := by
        rw [List.filterMap_append, List.filterMap_cons, hgroups]
        rfl
      rw [groupBy_of_build h, hlast, List.getLast?_concat]
      exact hmem
    · rw [targets_of_build h, List.filterMap_append, List.filterMap_cons_none rfl, hnames,
        List.append_nil]
      exact hnamed
  · intro hnot columns hcolumns name hname hgroup
    exact hnot (groupsTargets_of_build h hcolumns hname hgroup)

/-- Days of the time column `ts`, in groups of `g`. -/
def dayOfGroup : Resampler where
  spec :=
    { timeColumn := "ts", every := ⟨[⟨1, .d, one_lt_wordSize⟩]⟩, period := .days 86400000000000,
      groupBy := ["g"] }

/-- A column that becomes a group after it was named, and is then given up for another one. -/
theorem targets_free_iff_of_build_renamed :
    build "ts" "1d" [.targets ["g"], .groupBy ["g"], .targets ["v"]] =
        .ok { dayOfGroup with targets := some ["v"] } ∧
      (∀ columns ∈ some ["v"], "ts" ∉ columns) ∧
      ((∀ columns ∈ some ["v"], ∀ name ∈ columns, name ∉ ["g"]) ↔
        ¬GroupsTargets [.targets ["g"], .groupBy ["g"], .targets ["v"]]) := by
  have hbuild : build "ts" "1d" [.targets ["g"], .groupBy ["g"], .targets ["v"]] =
      .ok { dayOfGroup with targets := some ["v"] } := by decide +kernel
  exact ⟨hbuild, targets_free_iff_of_build hbuild⟩

/-- A column that becomes a group after it was named is still to be reduced. -/
theorem exists_target_grouped : ∃ r, build "ts" "1d" [.targets ["g"], .groupBy ["g"]] = .ok r ∧
    ∃ columns ∈ r.targets, ∃ name ∈ columns, name ∈ r.spec.groupBy :=
  ⟨{ dayOfGroup with targets := some ["g"] }, by decide +kernel, ["g"], rfl, "g",
    List.mem_singleton_self _, List.mem_singleton_self _⟩

/-! ### Settings -/

/-- The choices that some settings make. -/
def Setup.ofSettings (s : ResampleSettings) : List Setup :=
  [.closed s.closed, .label s.label, .groupBy s.groupBy, .reducers s.reducers.entries,
      .policy s.policy, .detection s.detection, .boundaries s.boundaries] ++
    (s.startOffset.map .startOffset).toList ++ (s.targetColumns.map .targets).toList

/-- The resampler of some settings comes of their choices. -/
theorem ofSettings_eq_build (s : ResampleSettings) :
    ofSettings s = build s.timeColumn s.every (Setup.ofSettings s) := by
  have hoptional : ∀ {α : Type} (choose : Resampler → α → Except Error Resampler)
      (setup : α → Setup) (x : Option α), (∀ r x, (setup x).apply r = choose r x) →
      ∀ r, (x.map setup).toList.foldlM Setup.apply r = withOptional choose x r := by
    intro α choose setup x hchoose r
    cases x with
    | none => rfl
    | some x =>
        change ((setup x).apply r >>= pure) = choose r x
        rw [bind_pure, hchoose]
  rw [ofSettings, build, Setup.ofSettings]
  simp only [List.foldlM_append, List.foldlM_cons, List.foldlM_nil, Setup.apply, ok_bind,
    bind_assoc, pure_bind, hoptional withStartOffset .startOffset _ fun _ _ => rfl,
    hoptional withTargets .targets _ fun _ _ => rfl]

/-- Settings are carried out by steps of the builder. -/
theorem built_of_ofSettings {s : ResampleSettings} (h : ofSettings s = .ok r) : r.Built :=
  ⟨_, _, _, ofSettings_eq_build s ▸ h⟩

theorem Built.period (h : r.Built) : Period.ofDuration r.spec.every = .ok r.spec.period := by
  obtain ⟨timeColumn, every, choices, hbuild⟩ := h
  exact (spec_of_build hbuild).2.2

theorem Built.timeColumn_notMem_targets (h : r.Built) :
    ∀ columns ∈ r.targets, r.spec.timeColumn ∉ columns := by
  obtain ⟨timeColumn, every, choices, hbuild⟩ := h
  exact timeColumn_notMem_targets_of_build hbuild

end Cadence.Resampler
