import Cadence.Proofs.Outcome
import Cadence.Proofs.Window.Filing
import Cadence.Proofs.Zone.Clock
import Cadence.Zone.Table
import Mathlib.Data.List.Range

/-!
# Assignments

The placements of a table are its rows in their order, each with its group, its
window and its instants. An assignment splits the rows among its windows, by
their groups and by the lower ends of their windows.
-/

namespace Cadence

/-! ### Instants of a table -/

theorem TimeAxis.length_instantsOf {c : Column} {instants : List Int}
    (h : instantsOf c = .ok instants) : instants.length = c.cells.length := by
  unfold instantsOf at h
  split at h
  · cases h
    exact List.length_map _
  · exact (mapM_eq_ok_iff.mp h).length_eq.symm
  · exact (mapM_eq_ok_iff.mp h).length_eq.symm
  · cases h

/-- The time axis of a table comes from a column of times without nulls, whose zone is known. -/
theorem TimeAxis.ofTable_eq_ok_iff [Zone.Database] {t : Table} {name : String} {axis : TimeAxis} :
    ofTable t name = .ok axis ↔ ∃ c, t.column? name = some c ∧ isTemporal c.type = true ∧
      c.nullCount = 0 ∧ instantsOf c = .ok axis.instants ∧ zoneLabel c.type = axis.label ∧
      zoneOf axis.label = .ok axis.zone := by
  unfold ofTable
  cases t.column? name with
  | none => exact ⟨nofun, fun h => nomatch h.choose_spec.1⟩
  | some c =>
      simp only [Option.some.injEq, exists_eq_left', ofColumn]
      split
      · next htemporal =>
          rcases Nat.eq_zero_or_pos c.nullCount with hnone | hnulls
          · rw [if_neg (Nat.not_lt.mpr hnone.le)]
            change (instantsOf c >>= fun instants => zoneOf (zoneLabel c.type) >>= fun zone =>
              .ok ⟨instants, zone, zoneLabel c.type⟩) = .ok axis ↔ _
            simp only [bind_eq_ok_iff]
            constructor
            · rintro ⟨instants, hinstants, zone, hzone, h⟩
              cases h
              exact ⟨htemporal, hnone, hinstants, rfl, hzone⟩
            · rintro ⟨-, -, hinstants, hlabel, hzone⟩
              refine ⟨_, hinstants, _, hlabel ▸ hzone, ?_⟩
              rw [hlabel]
          · rw [if_pos hnulls]
            exact ⟨nofun, fun h => absurd h.2.1 hnulls.ne'⟩
      · next htemporal => exact ⟨nofun, fun h => absurd h.1 htemporal⟩

/-- The axis of a table has one instant for each row, and a well-formed zone. -/
theorem TimeAxis.ofTable_spec [Zone.Database] {t : Table} {name : String} {axis : TimeAxis}
    (h : ofTable t name = .ok axis) :
    axis.instants.length = t.height ∧ axis.zone.WellFormed := by
  obtain ⟨c, hc, -, -, hinstants, -, hzone⟩ := ofTable_eq_ok_iff.mp h
  have hheight := t.uniform c (List.mem_of_find?_eq_some hc)
  exact ⟨(length_instantsOf hinstants).trans hheight,
    Zone.wellFormed_of_ofLabel? (elim_eq_ok_iff.mp hzone)⟩

/-- The instant that the window of an instant is computed from. -/
def WindowSpec.shift (spec : WindowSpec) (zone : Zone) (i : Int) : Except Error Int :=
  spec.offset.elim (.ok i) fun offset => zone.shiftBack offset.span i

theorem WindowSpec.shifted_eq_mapM (spec : WindowSpec) (axis : TimeAxis) :
    spec.shifted axis = axis.instants.mapM (spec.shift axis.zone) := by
  unfold shifted shift
  cases spec.offset with
  | none =>
      change Except.ok axis.instants = axis.instants.mapM fun i => pure (id i)
      rw [List.mapM_pure, List.map_id]
      rfl
  | some offset => rfl

theorem WindowSpec.length_shifted {spec : WindowSpec} {axis : TimeAxis} {shifted : List Int}
    (h : spec.shifted axis = .ok shifted) : shifted.length = axis.instants.length := by
  rw [shifted_eq_mapM] at h
  exact (mapM_eq_ok_iff.mp h).length_eq.symm

theorem WindowSpec.length_boundsFrom {spec : WindowSpec} {zone : Zone} {current : Option Bounds}
    {ts : List Int} {bounds : List Bounds} (h : spec.boundsFrom zone current ts = .ok bounds) :
    bounds.length = ts.length := by
  induction ts generalizing current bounds with
  | nil =>
      cases h
      rfl
  | cons t ts ih =>
      obtain ⟨b, -, h⟩ := bind_eq_ok_iff.mp h
      obtain ⟨others, hothers, h⟩ := bind_eq_ok_iff.mp h
      cases h
      exact congrArg (· + 1) (ih hothers)

/-! ### Placements -/

namespace Placement

variable {groups : List Nat} {bounds : List Bounds} {shifted instants : List Int} {p : Placement}

/-- A placement holds what the lists have at its row. -/
theorem mem_list_iff : p ∈ list groups bounds shifted instants ↔
    groups[p.row]? = some p.group ∧ bounds[p.row]? = some p.bounds ∧
      shifted[p.row]? = some p.shifted ∧ instants[p.row]? = some p.instant := by
  unfold list
  rw [List.mem_map]
  constructor
  · rintro ⟨⟨⟨⟨group, b⟩, s, i⟩, row⟩, hmem, rfl⟩
    rw [List.mem_zipIdx_iff_getElem?] at hmem
    simpa only [List.getElem?_zip_eq_some, and_assoc] using hmem
  · intro h
    refine ⟨(((p.group, p.bounds), (p.shifted, p.instant)), p.row), ?_, rfl⟩
    rw [List.mem_zipIdx_iff_getElem?]
    simpa only [List.getElem?_zip_eq_some, and_assoc] using h

/-- The rows of the placements are numbered in their order. -/
theorem map_row_list {n : Nat} (hgroups : groups.length = n) (hbounds : bounds.length = n)
    (hshifted : shifted.length = n) (hinstants : instants.length = n) :
    (list groups bounds shifted instants).map (·.row) = List.range n := by
  unfold list
  rw [List.map_map]
  have hrow : ∀ l : List ((Nat × Bounds) × (Int × Int)),
      l.zipIdx.map ((·.row) ∘ fun x => (⟨x.2, x.1.1.1, x.1.1.2, x.1.2.1, x.1.2.2⟩ : Placement)) =
        List.range l.length := by
    intro l
    rw [List.range_eq_range', ← List.zipIdx_map_snd]
    rfl
  rw [hrow]
  simp [hgroups, hbounds, hshifted, hinstants]

end Placement

/-! ### Windows in their order -/

namespace Window

variable {label : Label} {ps : List Placement} {p : Placement} {v w : Window} {r : Nat}

theorem slots_list : ((list label ps).map (·.slot)).Nodup := by
  have hperm := ((OpenWindow.fileAll label ps).map (·.window)).mergeSort_perm
    fun v w => v.slot.le w.slot
  rw [list, (hperm.map _).nodup_iff, List.map_map]
  exact (OpenWindow.filed_fileAll label ps).nodup

/-- Windows come in the order of their groups, then of their lower ends. -/
theorem ordered_list : (list label ps).Pairwise fun v w =>
    v.group < w.group ∨ v.group = w.group ∧ v.bounds.lower < w.bounds.lower := by
  have hsorted : (list label ps).Pairwise fun v w => v.slot.le w.slot = true := by
    apply List.pairwise_mergeSort
    · intro u v w huv hvw
      simp only [Slot.le, decide_eq_true_eq] at *
      omega
    · intro v w
      simp only [Slot.le, Bool.or_eq_true, decide_eq_true_eq]
      omega
  have hslots : (list label ps).Pairwise fun v w => v.slot ≠ w.slot :=
    List.pairwise_map.mp slots_list
  apply (hsorted.and hslots).imp
  rintro v w ⟨hle, hne⟩
  have hle : v.group < w.group ∨ v.group = w.group ∧ v.bounds.lower ≤ w.bounds.lower :=
    of_decide_eq_true hle
  simp only [slot, ne_eq, Slot.mk.injEq] at hne
  omega

/-- Windows that are opened in their order stay as they are. -/
theorem list_eq_of_ordered
    (h : ((OpenWindow.fileAll label ps).map (·.window)).Pairwise fun v w => v.slot.le w.slot) :
    list label ps = (OpenWindow.fileAll label ps).map (·.window) :=
  List.mergeSort_of_pairwise h

/-- Windows in their order are the opened ones, put in order. -/
theorem list_eq_of_perm {ws : List Window}
    (hperm : ((OpenWindow.fileAll label ps).map (·.window)).Perm ws)
    (hordered : ws.Pairwise fun v w =>
      v.group < w.group ∨ v.group = w.group ∧ v.bounds.lower < w.bounds.lower) :
    list label ps = ws := by
  apply List.Perm.eq_of_pairwise _ ordered_list hordered ((List.mergeSort_perm _ _).trans hperm)
  intro v w _ _ hvw hwv
  omega

/-- A window collects the placements of its slot. -/
theorem exists_collect (hw : w ∈ list label ps) : ∃ first rest,
    ps.filter (·.slot = w.slot) = first :: rest ∧
      w = (OpenWindow.collect label first rest).window := by
  rw [list, List.mem_mergeSort, List.mem_map] at hw
  obtain ⟨v, hv, rfl⟩ := hw
  obtain ⟨first, rest, hrows, hv⟩ := (OpenWindow.filed_fileAll label ps).collects v hv
  exact ⟨first, rest, hrows, congrArg OpenWindow.window hv⟩

/-- The label of a window comes from its bounds and one of its instants. -/
theorem exists_label_eq (hw : w ∈ list label ps) : ∃ first, w.label = label.instant w.bounds first := by
  obtain ⟨first, rest, -, hcollect⟩ := exists_collect hw
  rw [hcollect, OpenWindow.window_collect]
  exact ⟨first.shifted, rfl⟩

theorem exists_slot (hp : p ∈ ps) : ∃ w ∈ list label ps, w.slot = p.slot := by
  obtain ⟨v, hv, hslot⟩ := (OpenWindow.filed_fileAll label ps).covers p hp
  refine ⟨v.window, ?_, hslot⟩
  rw [list, List.mem_mergeSort]
  exact List.mem_map_of_mem hv

theorem eq_of_slot_eq (hv : v ∈ list label ps) (hw : w ∈ list label ps) (h : v.slot = w.slot) :
    v = w :=
  List.inj_on_of_nodup_map slots_list hv hw h

theorem rows_eq (hw : w ∈ list label ps) :
    w.rows = (ps.filter (·.slot = w.slot)).map (·.row) := by
  obtain ⟨first, rest, hrows, hcollect⟩ := exists_collect hw
  rw [hrows, hcollect, OpenWindow.window_collect]

theorem mem_rows_iff (hw : w ∈ list label ps) :
    r ∈ w.rows ↔ ∃ p ∈ ps, p.slot = w.slot ∧ p.row = r := by
  rw [rows_eq hw]
  simp [and_assoc]

theorem rows_ne_nil (hw : w ∈ list label ps) : w.rows ≠ [] := by
  obtain ⟨first, rest, hrows, -⟩ := exists_collect hw
  rw [rows_eq hw, hrows]
  simp

end Window

/-! ### The rows of windows -/

namespace Window

variable {label : Label} {ps : List Placement} {n : Nat} {v w : Window} {r : Nat}

theorem sublist_rows (hw : w ∈ list label ps) : w.rows.Sublist (ps.map (·.row)) := by
  rw [rows_eq hw]
  exact List.filter_sublist.map _

theorem eq_of_mem_rows (hrows : ps.map (·.row) = List.range n) (hv : v ∈ list label ps)
    (hw : w ∈ list label ps) (hrv : r ∈ v.rows) (hrw : r ∈ w.rows) : v = w := by
  obtain ⟨p, hp, hpslot, hprow⟩ := (mem_rows_iff hv).mp hrv
  obtain ⟨q, hq, hqslot, hqrow⟩ := (mem_rows_iff hw).mp hrw
  have hnodup : (ps.map (·.row)).Nodup := hrows ▸ List.nodup_range
  cases List.inj_on_of_nodup_map hnodup hp hq (hprow.trans hqrow.symm)
  exact eq_of_slot_eq hv hw (hpslot.symm.trans hqslot)

theorem disjoint_rows (hrows : ps.map (·.row) = List.range n) :
    (list label ps).Pairwise fun v w => v.rows.Disjoint w.rows := by
  have hslots : (list label ps).Pairwise fun v w => v.slot ≠ w.slot :=
    List.pairwise_map.mp slots_list
  apply hslots.imp_of_mem
  intro v w hv hw hne r hrv hrw
  exact hne (congrArg slot (eq_of_mem_rows hrows hv hw hrv hrw))

theorem ascending_rows (hrows : ps.map (·.row) = List.range n) (hw : w ∈ list label ps) :
    w.rows.Pairwise (· < ·) := by
  apply List.Pairwise.sublist (sublist_rows hw)
  rw [hrows]
  exact List.pairwise_lt_range

theorem mem_rows_iff_lt (hrows : ps.map (·.row) = List.range n) :
    (∃ w ∈ list label ps, r ∈ w.rows) ↔ r < n := by
  rw [← List.mem_range, ← hrows, List.mem_map]
  constructor
  · rintro ⟨w, hw, hr⟩
    obtain ⟨p, hp, -, hrow⟩ := (mem_rows_iff hw).mp hr
    exact ⟨p, hp, hrow⟩
  · rintro ⟨p, hp, hrow⟩
    obtain ⟨w, hw, hslot⟩ := exists_slot hp
    exact ⟨w, hw, (mem_rows_iff hw).mpr ⟨p, hp, hslot.symm, hrow⟩⟩

theorem perm_rows (hrows : ps.map (·.row) = List.range n) :
    ((list label ps).flatMap (·.rows)).Perm (List.range n) := by
  rw [List.perm_ext_iff_of_nodup _ List.nodup_range]
  · intro r
    rw [List.mem_flatMap, List.mem_range, mem_rows_iff_lt hrows]
  · rw [List.nodup_flatMap]
    refine ⟨?_, disjoint_rows hrows⟩
    intro w hw
    exact (ascending_rows hrows hw).imp ne_of_lt

/-- The counter of a window is exact when the instants of the placements never go back. -/
theorem distinct_eq_card (hsorted : (ps.map (·.instant)).Pairwise (· ≤ ·))
    (hw : w ∈ list label ps) :
    w.distinct = ((ps.filter (·.slot = w.slot)).map (·.instant)).toFinset.card := by
  obtain ⟨first, rest, hrows, hcollect⟩ := exists_collect hw
  have hinstants : ((first :: rest).map (·.instant)).Pairwise (· ≤ ·) := by
    rw [← hrows]
    exact List.Pairwise.sublist (List.filter_sublist.map _) hsorted
  rw [hrows, ← (OpenWindow.counted_collect label hinstants).distinct_eq, hcollect]

end Window

/-! ### The shape of an assignment -/

namespace Assignment

/-- Every row is listed exactly once, in the order of rows, and no window is empty. -/
structure Partitions (a : Assignment) (rows : Nat) : Prop where
  perm : (a.windows.flatMap (·.rows)).Perm (List.range rows)
  disjoint : a.windows.Pairwise fun v w => v.rows.Disjoint w.rows
  nonempty : ∀ w ∈ a.windows, w.rows ≠ []
  ascending : ∀ w ∈ a.windows, w.rows.Pairwise (· < ·)

theorem Partitions.exists_window_iff {a : Assignment} {n r : Nat} (h : a.Partitions n) :
    (∃ w ∈ a.windows, r ∈ w.rows) ↔ r < n := by
  rw [← List.mem_flatMap, h.perm.mem_iff, List.mem_range]

/-- Rows are in one group exactly when they have one key, and the groups are
numbered in the order in which rows of them appear. -/
structure Groups (a : Assignment) (key : Nat → List Cell) : Prop where
  nodup : a.groups.Nodup
  key_eq : ∀ w ∈ a.windows, ∀ r ∈ w.rows, a.groups[w.group]? = some (key r)
  group_eq_iff : ∀ v ∈ a.windows, ∀ w ∈ a.windows, ∀ r ∈ v.rows, ∀ s ∈ w.rows,
    v.group = w.group ↔ key r = key s
  appears : ∀ g < a.groups.length, ∃ w ∈ a.windows, w.group = g
  inOrder : ∀ w ∈ a.windows, ∀ r ∈ w.rows, ∀ g < w.group,
    ∃ v ∈ a.windows, v.group = g ∧ ∃ s ∈ v.rows, s < r

/-- Windows are in the order of their groups, then of their lower ends, and no two
agree in both. -/
def Ordered (a : Assignment) : Prop :=
  a.windows.Pairwise fun v w =>
    v.group < w.group ∨ v.group = w.group ∧ v.bounds.lower < w.bounds.lower

/-- Windows of one group that begin together are one. -/
theorem Ordered.eq_of_lower_eq {a : Assignment} {v w : Window} (h : a.Ordered)
    (hv : v ∈ a.windows) (hw : w ∈ a.windows) (hgroup : v.group = w.group)
    (hlower : v.bounds.lower = w.bounds.lower) : v = w := by
  have hall : ∀ v ∈ a.windows, ∀ w ∈ a.windows,
      v.group = w.group → v.bounds.lower = w.bounds.lower → v = w := by
    intro v hv w hw
    apply List.Pairwise.forall_of_forall_of_flip (fun _ _ _ _ => rfl) _ _ hv hw
    · apply List.Pairwise.imp _ h
      intro v w hlt hgroup hlower
      omega
    · apply List.Pairwise.imp _ h
      intro v w hlt hgroup hlower
      omega
  exact hall v hv w hw hgroup hlower

/-- Each window counts the different instants among its rows. -/
def Counts (a : Assignment) (instants : List Int) : Prop :=
  ∀ w ∈ a.windows, w.distinct = (w.rows.map fun r => instants[r]?).toFinset.card

section OfRows

variable {label : Label} {keys : List (List Cell)} {bounds : List Bounds}
variable {shifted instants : List Int} {n : Nat} {w : Window} {r g : Nat}

/-- The placements that rows with these keys are assigned by. -/
def placements (keys : List (List Cell)) (bounds : List Bounds) (shifted instants : List Int) :
    List Placement :=
  Placement.list (Grouping.extend [] keys).rows bounds shifted instants

theorem rows_placements (hkeys : keys.length = n) (hbounds : bounds.length = n)
    (hshifted : shifted.length = n) (hinstants : instants.length = n) :
    (placements keys bounds shifted instants).map (·.row) = List.range n := by
  have hlength := (Grouping.numbers_extend List.nodup_nil keys).length_rows
  exact Placement.map_row_list (hlength.trans hkeys) hbounds hshifted hinstants

theorem partitions_ofRows (label : Label)
    (hrows : (placements keys bounds shifted instants).map (·.row) = List.range n) :
    (ofRows label keys bounds shifted instants).Partitions n where
  perm := Window.perm_rows hrows
  disjoint := Window.disjoint_rows hrows
  nonempty := fun _ => Window.rows_ne_nil
  ascending := fun _ => Window.ascending_rows hrows

/-! #### Bounds -/

/-- A window begins where the windows of all its rows do. -/
theorem lower_eq_of_mem (hw : w ∈ (ofRows label keys bounds shifted instants).windows)
    (hr : r ∈ w.rows) : ∃ b, bounds[r]? = some b ∧ b.lower = w.bounds.lower := by
  obtain ⟨p, hp, hslot, rfl⟩ := (Window.mem_rows_iff hw).mp hr
  exact ⟨p.bounds, (Placement.mem_list_iff.mp hp).2.1, congrArg Slot.lower hslot⟩

/-- The bounds of a window are those of its first row. -/
theorem exists_row_of_window (hw : w ∈ (ofRows label keys bounds shifted instants).windows) :
    ∃ r ∈ w.rows, bounds[r]? = some w.bounds := by
  obtain ⟨first, rest, hrows, hcollect⟩ := Window.exists_collect hw
  have hfirst : first ∈ (placements keys bounds shifted instants).filter (·.slot = w.slot) := by
    rw [show (placements keys bounds shifted instants).filter (·.slot = w.slot) = first :: rest
      from hrows]
    exact List.mem_cons_self
  have hbounds : w.bounds = first.bounds := by
    rw [hcollect, OpenWindow.window_collect]
    rfl
  refine ⟨first.row, ?_, ?_⟩
  · rw [Window.rows_eq hw]
    exact List.mem_map_of_mem hfirst
  · rw [hbounds]
    exact (Placement.mem_list_iff.mp (List.mem_of_mem_filter hfirst)).2.1

/-! #### Groups -/

/-- The group of a window is the number of the key of each of its rows. -/
theorem getElem?_rows_of_mem (hw : w ∈ (ofRows label keys bounds shifted instants).windows)
    (hr : r ∈ w.rows) : (Grouping.extend [] keys).rows[r]? = some w.group := by
  obtain ⟨p, hp, hslot, rfl⟩ := (Window.mem_rows_iff hw).mp hr
  have hgroup : p.group = w.group := congrArg Slot.group hslot
  rw [← hgroup]
  exact (Placement.mem_list_iff.mp hp).1

theorem getElem?_groups_of_mem (hw : w ∈ (ofRows label keys bounds shifted instants).windows)
    (hr : r ∈ w.rows) : (ofRows label keys bounds shifted instants).groups[w.group]? = keys[r]? :=
  (Grouping.numbers_extend List.nodup_nil keys).key_eq r _ (getElem?_rows_of_mem hw hr)

theorem exists_window_of_group
    (hrows : (placements keys bounds shifted instants).map (·.row) = List.range n)
    (hkeys : keys.length = n) (hg : (Grouping.extend [] keys).rows[r]? = some g) :
    ∃ w ∈ (ofRows label keys bounds shifted instants).windows, w.group = g ∧ r ∈ w.rows := by
  have hlength := (Grouping.numbers_extend List.nodup_nil keys).length_rows
  obtain ⟨hlt, -⟩ := List.getElem?_eq_some_iff.mp hg
  obtain ⟨w, hw, hr⟩ := (Window.mem_rows_iff_lt hrows).mpr (hlt.trans_eq (hlength.trans hkeys))
  exact ⟨w, hw, Option.some.inj ((getElem?_rows_of_mem hw hr).symm.trans hg), hr⟩

theorem groups_ofRows {key : Nat → List Cell}
    (hrows : (placements keys bounds shifted instants).map (·.row) = List.range n)
    (hkeys : keys.length = n) (hkey : ∀ r < n, keys[r]? = some (key r)) :
    (ofRows label keys bounds shifted instants).Groups key := by
  have hnumbers := Grouping.numbers_extend List.nodup_nil keys
  have hgroup : ∀ w ∈ (ofRows label keys bounds shifted instants).windows, ∀ r ∈ w.rows,
      (ofRows label keys bounds shifted instants).groups[w.group]? = some (key r) := by
    intro w hw r hr
    rw [getElem?_groups_of_mem hw hr]
    exact hkey r ((Window.mem_rows_iff_lt hrows).mp ⟨w, hw, hr⟩)
  refine ⟨hnumbers.nodup, hgroup, ?_, ?_, ?_⟩
  · intro v hv w hw r hr s hs
    have hr := hgroup v hv r hr
    have hs := hgroup w hw s hs
    constructor
    · intro heq
      rw [heq] at hr
      exact Option.some.inj (hr.symm.trans hs)
    · intro heq
      obtain ⟨hlt, -⟩ := List.getElem?_eq_some_iff.mp hr
      apply (List.getElem?_inj hlt hnumbers.nodup).mp
      rw [hr, hs, heq]
  · intro g hg
    rcases hnumbers.appears g hg with hlt | hmem
    · exact absurd hlt (Nat.not_lt_zero g)
    · obtain ⟨r, hr⟩ := List.mem_iff_getElem?.mp hmem
      obtain ⟨w, hw, hgroup, -⟩ := exists_window_of_group hrows hkeys hr
      exact ⟨w, hw, hgroup⟩
  · intro w hw r hr g hg
    rcases hnumbers.inOrder r w.group (getElem?_rows_of_mem hw hr) g hg with hlt | ⟨s, hs, hrow⟩
    · exact absurd hlt (Nat.not_lt_zero g)
    · obtain ⟨v, hv, hgroup, hmem⟩ := exists_window_of_group hrows hkeys hrow
      exact ⟨v, hv, hgroup, s, hmem, hs⟩

/-! #### Counters -/

/-- Placements are in the order of their rows, so that their instants are those of the rows. -/
theorem pairwise_instant_placements (hsorted : instants.Pairwise (· ≤ ·))
    (hrows : (placements keys bounds shifted instants).map (·.row) = List.range n) :
    ((placements keys bounds shifted instants).map (·.instant)).Pairwise (· ≤ ·) := by
  have hordered : (placements keys bounds shifted instants).Pairwise fun p q => p.row < q.row :=
    List.pairwise_map.mp (hrows ▸ List.pairwise_lt_range)
  rw [List.pairwise_map]
  apply hordered.imp_of_mem
  intro p q hp hq hlt
  obtain ⟨hpn, hpi⟩ := List.getElem?_eq_some_iff.mp (Placement.mem_list_iff.mp hp).2.2.2
  obtain ⟨hqn, hqi⟩ := List.getElem?_eq_some_iff.mp (Placement.mem_list_iff.mp hq).2.2.2
  rw [← hpi, ← hqi]
  exact List.pairwise_iff_getElem.mp hsorted _ _ hpn hqn hlt

theorem counts_ofRows (hsorted : instants.Pairwise (· ≤ ·))
    (hrows : (placements keys bounds shifted instants).map (·.row) = List.range n) :
    (ofRows label keys bounds shifted instants).Counts instants := by
  intro w hw
  have hseen : w.rows.map (fun r => instants[r]?) =
      (((placements keys bounds shifted instants).filter (·.slot = w.slot)).map
        (·.instant)).map some := by
    rw [Window.rows_eq hw, List.map_map, List.map_map]
    apply List.map_congr_left
    intro p hp
    exact (Placement.mem_list_iff.mp (List.mem_of_mem_filter hp)).2.2.2
  rw [Window.distinct_eq_card (pairwise_instant_placements hsorted hrows) hw, hseen]
  generalize ((placements keys bounds shifted instants).filter (·.slot = w.slot)).map
    (·.instant) = seen
  have himage : (seen.map some).toFinset = seen.toFinset.image some := by
    ext x
    simp
  rw [himage, Finset.card_image_of_injective _ (Option.some_injective _)]

end OfRows

/-! ### Assignments of tables -/

variable {spec : WindowSpec} {t : Table} {axis : TimeAxis}
variable {shifted : List Int} {bounds : List Bounds}

theorem length_groupKeys (columns : List Column) : (t.groupKeys columns).length = t.height := by
  simp [Table.groupKeys]

/-- The placements of a table are its rows in their order. -/
theorem rows_plan (columns : List Column) (haxis : axis.instants.length = t.height)
    (hshifted : spec.shifted axis = .ok shifted)
    (hbounds : spec.boundsFrom axis.zone none shifted = .ok bounds) :
    (placements (t.groupKeys columns) bounds shifted axis.instants).map (·.row) =
      List.range t.height := by
  have hlength := (WindowSpec.length_shifted hshifted).trans haxis
  exact rows_placements (length_groupKeys columns) ((WindowSpec.length_boundsFrom hbounds).trans hlength)
    hlength haxis

/-- The key of a row in the given columns. -/
def keyAt (columns : List Column) (row : Nat) : List Cell := columns.map (·.cell row)

theorem groups_plan {columns : List Column} {instants : List Int} (label : Label)
    (hrows : (placements (t.groupKeys columns) bounds shifted instants).map (·.row) =
      List.range t.height) :
    (ofRows label (t.groupKeys columns) bounds shifted instants).Groups (keyAt columns) := by
  apply groups_ofRows hrows (length_groupKeys columns)
  intro r hr
  simp [Table.groupKeys, keyAt, hr]

end Assignment

/-- An assignment of a table comes from the keys, the windows and the instants of its rows. -/
theorem WindowSpec.assign_eq_ok_iff {spec : WindowSpec} {t : Table} {axis : TimeAxis}
    {a : Assignment} : (spec.assign t axis).outcome = .ok a ↔
      ∃ columns shifted bounds, t.groupColumns spec.groupBy = .ok columns ∧
        spec.shifted axis = .ok shifted ∧ spec.boundsFrom axis.zone none shifted = .ok bounds ∧
        Assignment.ofRows spec.label (t.groupKeys columns) bounds shifted axis.instants = a := by
  rw [assign, Journaled.outcome_noting]
  simp only [Assignment.plan, bind_eq_ok_iff]
  constructor
  · rintro ⟨columns, hcolumns, shifted, hshifted, bounds, hbounds, h⟩
    exact ⟨columns, shifted, bounds, hcolumns, hshifted, hbounds, Except.ok.inj h⟩
  · rintro ⟨columns, shifted, bounds, hcolumns, hshifted, hbounds, h⟩
    exact ⟨columns, hcolumns, shifted, hshifted, bounds, hbounds, congrArg Except.ok h⟩

namespace WindowSpec

variable {spec : WindowSpec} {t : Table} {axis : TimeAxis} {a : Assignment} {columns : List Column}

/-- Rows whose placements open some windows are put into these windows. -/
theorem assign_of_perm {columns : List Column} {shifted : List Int} {bounds : List Bounds}
    {ws : List Window} {groups : List (List Cell)}
    (hcolumns : t.groupColumns spec.groupBy = .ok columns)
    (hshifted : spec.shifted axis = .ok shifted)
    (hbounds : spec.boundsFrom axis.zone none shifted = .ok bounds)
    (hperm : ((OpenWindow.fileAll spec.label (Placement.list
        (Grouping.extend [] (t.groupKeys columns)).rows bounds shifted axis.instants)).map
      (·.window)).Perm ws)
    (hordered : ws.Pairwise fun v w =>
      v.group < w.group ∨ v.group = w.group ∧ v.bounds.lower < w.bounds.lower)
    (hgroups : (Grouping.extend [] (t.groupKeys columns)).keys = groups) :
    (spec.assign t axis).outcome = .ok ⟨ws, groups⟩ := by
  apply assign_eq_ok_iff.mpr ⟨columns, shifted, bounds, hcolumns, hshifted, hbounds, _⟩
  exact congrArg₂ Assignment.mk (Window.list_eq_of_perm hperm hordered) hgroups

theorem partitions_of_assign (haxis : axis.instants.length = t.height)
    (h : (spec.assign t axis).outcome = .ok a) : a.Partitions t.height := by
  obtain ⟨columns, shifted, bounds, -, hshifted, hbounds, rfl⟩ := assign_eq_ok_iff.mp h
  exact Assignment.partitions_ofRows _ (Assignment.rows_plan columns haxis hshifted hbounds)

theorem groups_of_assign (haxis : axis.instants.length = t.height)
    (hcolumns : t.groupColumns spec.groupBy = .ok columns)
    (h : (spec.assign t axis).outcome = .ok a) : a.Groups (Assignment.keyAt columns) := by
  obtain ⟨columns', shifted, bounds, hcolumns', hshifted, hbounds, rfl⟩ := assign_eq_ok_iff.mp h
  cases hcolumns.symm.trans hcolumns'
  exact Assignment.groups_plan _ (Assignment.rows_plan columns haxis hshifted hbounds)

theorem ordered_of_assign (h : (spec.assign t axis).outcome = .ok a) : a.Ordered := by
  obtain ⟨_, _, _, -, -, -, rfl⟩ := assign_eq_ok_iff.mp h
  exact Window.ordered_list

theorem exists_groupColumns_of_assign (h : (spec.assign t axis).outcome = .ok a) :
    ∃ columns, t.groupColumns spec.groupBy = .ok columns := by
  obtain ⟨columns, _, _, hcolumns, -⟩ := assign_eq_ok_iff.mp h
  exact ⟨columns, hcolumns⟩

end WindowSpec

/-- An assignment splits the rows of its table among its windows and groups them by
their keys. Its windows come in order, and they count their instants when those are
in order, too. -/
theorem WindowSpec.assign_shape {spec : WindowSpec} {t : Table} {axis : TimeAxis}
    {a : Assignment} (haxis : axis.instants.length = t.height)
    (h : (spec.assign t axis).outcome = .ok a) :
    ∃ columns, t.groupColumns spec.groupBy = .ok columns ∧
      a.Partitions t.height ∧ a.Groups (Assignment.keyAt columns) ∧ a.Ordered ∧
      (axis.IsSorted → a.Counts axis.instants) := by
  obtain ⟨columns, shifted, bounds, hcolumns, hshifted, hbounds, rfl⟩ := assign_eq_ok_iff.mp h
  have hrows := Assignment.rows_plan columns haxis hshifted hbounds
  exact ⟨columns, hcolumns, Assignment.partitions_ofRows _ hrows, Assignment.groups_plan _ hrows,
    Window.ordered_list, fun hsorted => Assignment.counts_ofRows hsorted hrows⟩

/-- Rows of two sites, in turn. -/
def Table.sites : Table where
  height := 4
  columns :=
    [⟨⟨"ts", .timestamp .nanosecond none, false⟩, [.int 0, .int 0, .int 0, .int 1], by decide⟩,
      ⟨⟨"site", .text, false⟩, [.text "north", .text "south", .text "north", .text "south"],
        by decide⟩]
  uniform := by decide

/-- The instants of the sites, on the common time line. -/
def TimeAxis.sites : TimeAxis := ⟨[0, 0, 0, 1], .fixed 0, none⟩

/-- An hour of each site. -/
def WindowSpec.hourOfSite : WindowSpec where
  timeColumn := "ts"
  every := ⟨[⟨1, .h, by decide⟩]⟩
  period := .fixed 3600000000000
  groupBy := ["site"]

/-- Each site has its own windows, and its own count of instants. -/
theorem WindowSpec.assign_shape_sites :
    ∃ a, TimeAxis.ofTable .sites "ts" = .ok .sites ∧
      (hourOfSite.assign .sites .sites).outcome = .ok a ∧
      a.windows.map (·.rows) = [[0, 2], [1, 3]] ∧ a.windows.map (·.distinct) = [1, 2] ∧
      ∃ columns, Table.sites.groupColumns hourOfSite.groupBy = .ok columns ∧
        a.Partitions Table.sites.height ∧ a.Groups (Assignment.keyAt columns) ∧ a.Ordered ∧
        (TimeAxis.sites.IsSorted → a.Counts TimeAxis.sites.instants) := by
  have haxis : TimeAxis.ofTable .sites "ts" = .ok .sites := by rfl
  have hassign : (hourOfSite.assign .sites .sites).outcome =
      .ok (Assignment.ofRows .left
        [[.text "north"], [.text "south"], [.text "north"], [.text "south"]]
        (List.replicate 4 ⟨0, 3600000000000⟩) [0, 0, 0, 1] [0, 0, 0, 1]) :=
    assign_eq_ok_iff.mpr ⟨_, _, _, rfl, rfl, rfl, rfl⟩
  have hwindows : (Assignment.ofRows .left
      [[.text "north"], [.text "south"], [.text "north"], [.text "south"]]
      (List.replicate 4 ⟨0, 3600000000000⟩) [0, 0, 0, 1] [0, 0, 0, 1]).windows =
      [⟨0, ⟨0, 3600000000000⟩, 0, [0, 2], 1⟩, ⟨1, ⟨0, 3600000000000⟩, 0, [1, 3], 2⟩] :=
    Window.list_eq_of_ordered (by decide)
  refine ⟨_, haxis, hassign, ?_, ?_, assign_shape (TimeAxis.ofTable_spec haxis).1 hassign⟩
  · rw [hwindows]
    rfl
  · rw [hwindows]
    rfl

end Cadence
