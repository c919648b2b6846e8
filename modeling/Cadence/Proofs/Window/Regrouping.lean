import Cadence.Proofs.Window.Blocks
import Mathlib.Data.List.GetD

/-!
# Windows put into windows

On a clock that never changes, the windows of an assignment are those of its rows on their
own. When each window becomes a row of its own, at its label, these rows come in time order
again, and they gather the rows of the windows in blocks. Every coarser window of the blocks
is then a coarser window of the rows.
-/

namespace Cadence

namespace WindowSpec

variable {spec : WindowSpec} {t : Table} {axis : TimeAxis} {a : Assignment} {columns : List Column}

variable (hperiod : Period.ofDuration spec.every = .ok spec.period)
variable (hzone : axis.zone.WellFormed) (hfixed : axis.zone.transitions = [])
variable (hoffset : spec.offset = none) (hcolumns : t.groupColumns spec.groupBy = .ok columns)
include hperiod hzone hfixed hoffset hcolumns

/-- Without an offset, rows are put into the windows of their instants. -/
theorem exact_of_assign (haxis : axis.instants.length = t.height)
    (hlabel : spec.label = spec.closed.label) (h : (spec.assign t axis).outcome = .ok a) :
    a.Exact t.height (Assignment.keyAt columns)
      (fun r => spec.windowOf axis.zone (axis.instantAt r)) spec.closed := by
  have hp := Period.regular_of_ofDuration hperiod
  have hpartitions := partitions_of_assign haxis h
  refine ⟨hpartitions, groups_of_assign haxis hcolumns h, ordered_of_assign h, ?_, ?_⟩
  · obtain ⟨_, shifted, bounds, -, hshifted, hbounds, rfl⟩ := assign_eq_ok_iff.mp h
    rw [WindowSpec.shifted, hoffset] at hshifted
    cases hshifted
    rw [boundsFrom_eq_mapM_of_transitions_eq_nil hperiod hzone hfixed] at hbounds
    intro w hw r hr
    have hwindow : ∀ {i b}, i ∈ w.rows → bounds[i]? = some b →
        spec.windowOf axis.zone (axis.instantAt i) = .ok b := by
      intro i b hi hb
      have hlt := hpartitions.exists_window_iff.mp ⟨w, hw, hi⟩
      rw [← haxis] at hlt
      obtain ⟨b', hb', hwindow⟩ := getElem?_of_mapM_eq_ok hbounds (List.getElem?_eq_getElem hlt)
      cases hb.symm.trans hb'
      rw [TimeAxis.instantAt, List.getD_eq_getElem _ _ hlt]
      exact hwindow
    -- The window begins where the one of its row does, and has the bounds of its first row.
    obtain ⟨b, hb, hlower⟩ := Assignment.lower_eq_of_mem hw hr
    obtain ⟨first, hfirst, hfirstBounds⟩ := Assignment.exists_row_of_window hw
    have hown := hwindow hr hb
    rwa [Period.eq_of_lower_eq_of_windowOf hp hzone hfixed hown (hwindow hfirst hfirstBounds)
      hlower] at hown
  · obtain ⟨_, _, _, -, -, -, rfl⟩ := assign_eq_ok_iff.mp h
    intro w hw
    obtain ⟨first, hfirst⟩ := Window.exists_label_eq hw
    rw [hfirst, hlabel, Closed.instant_label]

/-- Rows whose instants have windows can be assigned. -/
theorem exists_assign (haxis : axis.instants.length = t.height)
    (h : ∀ r < t.height, ∃ b, spec.windowOf axis.zone (axis.instantAt r) = .ok b) :
    ∃ a, (spec.assign t axis).outcome = .ok a := by
  have hwindows : ∀ i ∈ axis.instants, ∃ b, spec.windowOf axis.zone i = .ok b := by
    intro i hi
    obtain ⟨r, hr, rfl⟩ := List.mem_iff_getElem.mp hi
    have hwindow := h r (haxis ▸ hr)
    rwa [TimeAxis.instantAt, List.getD_eq_getElem _ _ hr] at hwindow
  obtain ⟨bounds, hbounds⟩ := exists_forall₂ hwindows
  have hshifted : spec.shifted axis = .ok axis.instants := by rw [WindowSpec.shifted, hoffset]
  refine ⟨_, assign_eq_ok_iff.mpr ⟨columns, _, bounds, hcolumns, hshifted, ?_, rfl⟩⟩
  rw [boundsFrom_eq_mapM_of_transitions_eq_nil hperiod hzone hfixed]
  exact mapM_eq_ok_iff.mpr hbounds

end WindowSpec

/-- A window comes up before another one when windows are listed in the order of their
labels, and those of one label in the order of an assignment. -/
def Window.ComesBefore (v w : Window) : Prop :=
  v.label < w.label ∨ v.label = w.label ∧
    (v.group < w.group ∨ v.group = w.group ∧ v.bounds.lower < w.bounds.lower)

namespace Assignment

variable {a : Assignment} {n : Nat} {key key' : Nat → List Cell} {p q : Period} {closed : Closed}
variable {zone : Zone} {at' : Nat → Int} {places : List Nat} {window' : Nat → Except Error Bounds}
variable {i j r s : Nat} {v w : Window}

/-- The rows of the window whose place comes at some place of a list. -/
def block (a : Assignment) (places : List Nat) (i : Nat) : List Nat :=
  (a.windows.map (·.rows)).getD (places.getD i 0) []

/-- The label of a window, by its place. -/
def labelAt (a : Assignment) (i : Nat) : Int := (a.windows.map (·.label)).getD i 0

/-- The places of all windows, in the order in which the windows come up. -/
structure Lists (a : Assignment) (places : List Nat) : Prop where
  perm : places.Perm (List.range a.windows.length)
  ordered : places.Pairwise fun i j =>
    a.labelAt i < a.labelAt j ∨ a.labelAt i = a.labelAt j ∧ i < j

theorem labelAt_eq (h : a.windows[i]? = some w) : a.labelAt i = w.label := by
  simp [labelAt, h]

/-- The row numbers in a list are the places of windows. -/
theorem exists_window_at (hplaces : a.Lists places) (hi : i < a.windows.length) :
    ∃ place w, places[i]? = some place ∧ a.windows[place]? = some w ∧
      places.getD i 0 = place ∧ a.block places i = w.rows := by
  have hlength : i < places.length := by rwa [hplaces.perm.length_eq, List.length_range]
  have hplace : places[i] < a.windows.length :=
    List.mem_range.mp (hplaces.perm.mem_iff.mp (List.getElem_mem hlength))
  have hgetD : places.getD i 0 = places[i] := List.getD_eq_getElem _ _ hlength
  refine ⟨places[i], a.windows[places[i]], List.getElem?_eq_getElem hlength,
    List.getElem?_eq_getElem hplace, hgetD, ?_⟩
  rw [block, hgetD]
  simp [hplace]

/-- Every window is somewhere in the list. -/
theorem exists_block_of_mem (hplaces : a.Lists places) (hw : w ∈ a.windows) :
    ∃ i < a.windows.length, a.block places i = w.rows := by
  obtain ⟨place, hplace, rfl⟩ := List.mem_iff_getElem.mp hw
  obtain ⟨i, hi, hnamed⟩ :=
    List.mem_iff_getElem.mp (hplaces.perm.mem_iff.mpr (List.mem_range.mpr hplace))
  have hlt : i < a.windows.length := by
    rwa [hplaces.perm.length_eq, List.length_range] at hi
  obtain ⟨place', w, hplace', hw, -, hrows⟩ := exists_window_at hplaces hlt
  rw [List.getElem?_eq_getElem hi, hnamed] at hplace'
  cases hplace'
  rw [List.getElem?_eq_getElem hplace] at hw
  cases hw
  exact ⟨i, hlt, hrows⟩

theorem mem_block_iff (hplaces : a.Lists places) (ha : a.Partitions n) :
    r < n ↔ ∃ i < a.windows.length, r ∈ a.block places i := by
  rw [← ha.exists_window_iff]
  constructor
  · rintro ⟨w, hw, hr⟩
    obtain ⟨i, hi, hrows⟩ := exists_block_of_mem hplaces hw
    exact ⟨i, hi, hrows ▸ hr⟩
  · rintro ⟨i, hi, hr⟩
    obtain ⟨place, w, -, hw, -, hrows⟩ := exists_window_at hplaces hi
    exact ⟨w, List.mem_of_getElem? hw, hrows ▸ hr⟩

theorem block_ne_nil (hplaces : a.Lists places) (ha : a.Partitions n)
    (hi : i < a.windows.length) : a.block places i ≠ [] := by
  obtain ⟨place, w, -, hw, -, hrows⟩ := exists_window_at hplaces hi
  rw [hrows]
  exact ha.nonempty w (List.mem_of_getElem? hw)

/-- Blocks hold the rows of windows in the order in which the windows come up. -/
theorem exists_comesBefore (hplaces : a.Lists places) (ha : a.Ordered) (hij : i < j)
    (hj : j < a.windows.length) : ∃ v ∈ a.windows, ∃ w ∈ a.windows,
      a.block places i = v.rows ∧ a.block places j = w.rows ∧ v.ComesBefore w := by
  obtain ⟨x, v, hx, hv, -, hvrows⟩ := exists_window_at hplaces (hij.trans hj)
  obtain ⟨y, w, hy, hw, -, hwrows⟩ := exists_window_at hplaces hj
  refine ⟨v, List.mem_of_getElem? hv, w, List.mem_of_getElem? hw, hvrows, hwrows, ?_⟩
  obtain ⟨hxlt, rfl⟩ := List.getElem?_eq_some_iff.mp hx
  obtain ⟨hylt, rfl⟩ := List.getElem?_eq_some_iff.mp hy
  obtain ⟨hvlt, rfl⟩ := List.getElem?_eq_some_iff.mp hv
  obtain ⟨hwlt, rfl⟩ := List.getElem?_eq_some_iff.mp hw
  have hlex := List.pairwise_iff_getElem.mp hplaces.ordered i j hxlt hylt hij
  rw [labelAt_eq hv, labelAt_eq hw] at hlex
  exact hlex.imp_right fun h =>
    ⟨h.1, List.pairwise_iff_getElem.mp ha _ _ hvlt hwlt h.2⟩

section Labelled

variable (hp : p.Regular) (hzone : zone.WellFormed) (hfixed : zone.transitions = [])
variable (ha : a.Exact n key (fun r => p.windowOf closed zone (at' r)) closed)
variable (hsorted : ∀ r s, r ≤ s → s < n → at' r ≤ at' s)
include hp hzone hfixed ha hsorted

/-- A window whose label comes earlier has earlier rows. -/
theorem rows_lt_of_label_le (hv : v ∈ a.windows) (hw : w ∈ a.windows) (hle : v.label ≤ w.label)
    (hne : v.bounds ≠ w.bounds) (hr : r ∈ v.rows) (hs : s ∈ w.rows) : r < s := by
  by_contra hnot
  have hvr := ha.window_eq v hv r hr
  have hws := ha.window_eq w hw s hs
  have hinstants : at' s ≤ at' r :=
    hsorted s r (by omega) (ha.partitions.exists_window_iff.mp ⟨v, hv, hr⟩)
  rcases Period.eq_or_le_of_windowOf hp hzone hfixed hinstants hws hvr with heq | hbefore
  · exact hne heq.symm
  · have hlt : closed.edge w.bounds < closed.edge v.bounds := Closed.edge_lt_edge
      (Period.lower_lt_upper_of_windowOf hp hzone hfixed hws)
      (Period.lower_lt_upper_of_windowOf hp hzone hfixed hvr) hbefore
    rw [← ha.label_eq v hv, ← ha.label_eq w hw] at hlt
    omega

/-- Of the windows of one group, one that comes up before another one has earlier rows. -/
theorem rows_lt_of_comesBefore (hv : v ∈ a.windows) (hw : w ∈ a.windows) (h : v.ComesBefore w)
    (hkey : key r = key s) (hr : r ∈ v.rows) (hs : s ∈ w.rows) : r < s := by
  have hgroup : v.group = w.group := (ha.groups.group_eq_iff v hv w hw r hr s hs).mpr hkey
  have hlabels := ha.label_eq v hv
  have hlabels' := ha.label_eq w hw
  rw [Window.ComesBefore] at h
  apply rows_lt_of_label_le hp hzone hfixed ha hsorted hv hw (by omega) _ hr hs
  intro heq
  rw [heq] at hlabels h
  omega

/-- The group of a window comes up in a row before those of other groups whose windows come
up later. -/
theorem exists_row_of_comesBefore (hv : v ∈ a.windows) (hw : w ∈ a.windows)
    (h : v.ComesBefore w) (hkey : key r ≠ key s) (hr : r ∈ v.rows) (hs : s ∈ w.rows) :
    ∃ r' < s, key r' = key r := by
  rw [Window.ComesBefore] at h
  by_cases hbounds : v.bounds = w.bounds
  · -- In one stretch of time the windows are in the order of their groups.
    have hgroup : v.group ≠ w.group := fun heq =>
      hkey ((ha.groups.group_eq_iff v hv w hw r hr s hs).mp heq)
    have hlabels : v.label = w.label := by
      rw [ha.label_eq v hv, ha.label_eq w hw, hbounds]
    obtain ⟨u, hu, hugroup, r', hr', hlt⟩ := ha.groups.inOrder w hw s hs v.group (by omega)
    exact ⟨r', hlt, (ha.groups.group_eq_iff u hu v hv r' hr' r hr).mp hugroup⟩
  · exact ⟨r, rows_lt_of_label_le hp hzone hfixed ha hsorted hv hw (by omega) hbounds hr hs, rfl⟩

/-- Rows at the labels of windows, in the order in which the windows come up, gather the rows
of the windows in blocks. -/
theorem gathers_of_exact (hq : q.Regular) (hrefines : p.Refines q)
    (hcoarse : ∀ r < n, ∃ d, q.windowOf closed zone (at' r) = .ok d) (hplaces : a.Lists places)
    (hkey : ∀ i < a.windows.length, ∀ r ∈ a.block places i, key r = key' i)
    (hwindow : ∀ i < a.windows.length,
      window' i = q.windowOf closed zone (a.labelAt (places.getD i 0))) :
    Gathers (a.block places) n a.windows.length key key'
      (fun r => q.windowOf closed zone (at' r)) window' where
  mem_iff r := mem_block_iff hplaces ha.partitions
  nonempty _ hi := block_ne_nil hplaces ha.partitions hi
  key_eq := hkey
  window_eq := by
    intro i hi r hr
    obtain ⟨place, w, -, hw, hgetD, hrows⟩ := exists_window_at hplaces hi
    rw [hrows] at hr
    have hmem := List.mem_of_getElem? hw
    obtain ⟨d, hd⟩ := hcoarse r (ha.partitions.exists_window_iff.mp ⟨w, hmem, hr⟩)
    have hedge := Period.windowOf_edge hp hzone hfixed hq hrefines (ha.window_eq w hmem r hr) hd
    rw [hwindow i hi, hgetD, labelAt_eq hw, ha.label_eq w hmem, hedge]
    exact hd
  ascending := by
    intro i hi
    obtain ⟨place, w, -, hw, -, hrows⟩ := exists_window_at hplaces hi
    rw [hrows]
    exact ha.partitions.ascending w (List.mem_of_getElem? hw)
  ordered := by
    intro i j hij hj hkeys _ r hr s hs
    have hkeyr := hkey i (hij.trans hj) r hr
    have hkeys' := hkey j hj s hs
    obtain ⟨v, hv, w, hw, hvrows, hwrows, hbefore⟩ := exists_comesBefore hplaces ha.ordered hij hj
    exact rows_lt_of_comesBefore hp hzone hfixed ha hsorted hv hw hbefore
      (by rw [hkeyr, hkeys', hkeys]) (hvrows ▸ hr) (hwrows ▸ hs)
  appears := by
    intro i j hij hj hkeys s hs
    have hkeys' := hkey j hj s hs
    have hkeyi := hkey i (hij.trans hj)
    obtain ⟨v, hv, w, hw, hvrows, hwrows, hbefore⟩ := exists_comesBefore hplaces ha.ordered hij hj
    obtain ⟨r, hr⟩ := List.exists_mem_of_ne_nil _ (ha.partitions.nonempty v hv)
    have hkeyr := hkeyi r (hvrows.symm ▸ hr)
    rw [← hkeyr]
    exact exists_row_of_comesBefore hp hzone hfixed ha hsorted hv hw hbefore
      (by rwa [hkeyr, hkeys']) hr (hwrows ▸ hs)

end Labelled

end Assignment

namespace WindowSpec

variable {spec : WindowSpec} {every : Duration} {period : Period} {t t' : Table}
variable {axis axis' : TimeAxis} {a b : Assignment} {columns columns' : List Column}
variable {places : List Nat}

/-- The specification with windows of another length. -/
def withLength (spec : WindowSpec) (every : Duration) (period : Period) : WindowSpec :=
  { spec with every, period }

/-- The rows of an axis and of key columns are the windows of an assignment: each row is at
the label of its window and has the key of its first row. -/
structure Relists (a : Assignment) (places : List Nat) (axis axis' : TimeAxis)
    (columns columns' : List Column) : Prop where
  lists : a.Lists places
  zone_eq : axis'.zone = axis.zone
  length : axis'.instants.length = a.windows.length
  instantAt_eq : ∀ i < a.windows.length, axis'.instantAt i = a.labelAt (places.getD i 0)
  keyAt_eq : ∀ i < a.windows.length,
    Assignment.keyAt columns' i = Assignment.keyAt columns ((a.block places i).headD 0)

theorem Relists.keyAt_block {n i r : Nat} {window : Nat → Except Error Bounds} {closed : Closed}
    (h : Relists a places axis axis' columns columns')
    (ha : a.Exact n (Assignment.keyAt columns) window closed) (hi : i < a.windows.length)
    (hr : r ∈ a.block places i) : Assignment.keyAt columns r = Assignment.keyAt columns' i := by
  obtain ⟨place, w, -, hw, -, hrows⟩ := Assignment.exists_window_at h.lists hi
  rw [h.keyAt_eq i hi]
  rw [hrows] at hr ⊢
  have hmem := List.mem_of_getElem? hw
  apply (ha.groups.group_eq_iff w hmem w hmem r hr _ _).mp rfl
  cases hcases : w.rows with
  | nil => exact absurd hcases (ha.partitions.nonempty w hmem)
  | cons first rest => exact List.mem_cons_self

/-- Windows can be put into coarser windows as their rows can, with the same result. -/
theorem exists_assign_of_relists [Zone.Database]
    (hfine : Period.ofDuration spec.every = .ok spec.period)
    (hcoarse : Period.ofDuration every = .ok period) (hrefines : spec.period.Refines period)
    (hoffset : spec.offset = none) (hlabel : spec.label = spec.closed.label)
    (haxis : TimeAxis.ofTable t spec.timeColumn = .ok axis) (hsorted : axis.IsSorted)
    (hfixed : axis.zone.transitions = [])
    (hcolumns : t.groupColumns spec.groupBy = .ok columns)
    (ha : (spec.assign t axis).outcome = .ok a)
    (hb : ((spec.withLength every period).assign t axis).outcome = .ok b)
    (hcolumns' : t'.groupColumns spec.groupBy = .ok columns')
    (hheight : t'.height = a.windows.length)
    (h : Relists a places axis axis' columns columns') :
    ∃ b', ((spec.withLength every period).assign t' axis').outcome = .ok b' ∧
      b'.Partitions a.windows.length ∧
      b'.windows.map (fun w => (w.group, w.bounds, w.label, w.rows.flatMap (a.block places))) =
        b.windows.map fun w => (w.group, w.bounds, w.label, w.rows) := by
  obtain ⟨hlength, hzone⟩ := TimeAxis.ofTable_spec haxis
  have hperiod : Period.ofDuration (spec.withLength every period).every =
      .ok (spec.withLength every period).period := hcoarse
  have hexact := exact_of_assign hfine hzone hfixed hoffset hcolumns hlength hlabel ha
  have hwhole : b.Exact t.height (Assignment.keyAt columns)
      (fun r => period.windowOf spec.closed axis.zone (axis.instantAt r)) spec.closed :=
    exact_of_assign hperiod hzone hfixed hoffset hcolumns hlength hlabel hb
  have hordered : ∀ r s, r ≤ s → s < t.height → axis.instantAt r ≤ axis.instantAt s := by
    intro r s hrs hs
    have hlt : s < axis.instants.length := hlength ▸ hs
    rw [TimeAxis.instantAt, TimeAxis.instantAt, List.getD_eq_getElem _ _ (hrs.trans_lt hlt),
      List.getD_eq_getElem _ _ hlt]
    exact hsorted.rel_get_of_le hrs
  have hgathers : Assignment.Gathers (a.block places) t.height a.windows.length
      (Assignment.keyAt columns) (Assignment.keyAt columns')
      (fun r => period.windowOf spec.closed axis.zone (axis.instantAt r))
      (fun i => period.windowOf spec.closed axis'.zone (axis'.instantAt i)) := by
    apply Assignment.gathers_of_exact (Period.regular_of_ofDuration hfine) hzone hfixed hexact
      hordered (Period.regular_of_ofDuration hcoarse) hrefines _ h.lists
    · exact fun i hi r hr => h.keyAt_block hexact hi hr
    · intro i hi
      rw [h.instantAt_eq i hi, h.zone_eq]
    · intro r hr
      obtain ⟨w, hw, hr⟩ := hwhole.partitions.exists_window_iff.mpr hr
      exact ⟨_, hwhole.window_eq w hw r hr⟩
  have hzone' : axis'.zone.WellFormed := h.zone_eq ▸ hzone
  have hfixed' : axis'.zone.transitions = [] := h.zone_eq ▸ hfixed
  have haxis' : axis'.instants.length = t'.height := h.length.trans hheight.symm
  have hwindows : ∀ i < t'.height, ∃ d,
      period.windowOf spec.closed axis'.zone (axis'.instantAt i) = .ok d := by
    intro i hi
    have hlt : i < a.windows.length := hheight ▸ hi
    obtain ⟨r, hr⟩ := List.exists_mem_of_ne_nil _ (hgathers.nonempty i hlt)
    obtain ⟨w, hw, hr'⟩ :=
      hwhole.partitions.exists_window_iff.mpr ((hgathers.mem_iff r).mpr ⟨i, hlt, hr⟩)
    exact ⟨_, (hgathers.window_eq i hlt r hr).symm.trans (hwhole.window_eq w hw r hr')⟩
  obtain ⟨b', hb'⟩ := exists_assign hperiod hzone' hfixed' hoffset hcolumns' haxis' hwindows
  have hexact' : b'.Exact a.windows.length (Assignment.keyAt columns')
      (fun i => period.windowOf spec.closed axis'.zone (axis'.instantAt i)) spec.closed :=
    hheight ▸ exact_of_assign hperiod hzone' hfixed' hoffset hcolumns' haxis' hlabel hb'
  exact ⟨b', hb', hexact'.partitions, Assignment.windows_eq_of_gathers hgathers hwhole hexact'⟩

end WindowSpec

end Cadence
