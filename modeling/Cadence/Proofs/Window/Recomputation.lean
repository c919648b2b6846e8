import Cadence.Proofs.Window.Assignment
import Cadence.Proofs.Window.Computation
import Cadence.Proofs.Window.Membership

/-!
# Windows of rows on their own

An assignment takes two short cuts. The window of a row serves the next rows whose
instants it holds, and rows of one group share the window that the first of them
has at that lower end. Both are right exactly when they agree with the windows of
the rows on their own, and always where the clock is steady around every cell.
-/

namespace Cadence

/-! ### Readings of one cell -/

namespace Period

variable {p : Period} {closed : Closed} {zone : Zone} {s t : Int} {b c : Bounds}

/-- Instants whose readings lie in one cell have one window. -/
theorem windowOf_eq_ok_of_contains (hp : p.Regular) (hzone : zone.WellFormed)
    (hcell : p.IsCell closed (zone.reading s) c) (hs : p.windowOf closed zone s = .ok b)
    (hmem : c.Contains closed (zone.reading t).nanos) : p.windowOf closed zone t = .ok b :=
  (windowOf_eq_ok_iff hp hzone (hcell.of_contains hmem)).mpr
    ((windowOf_eq_ok_iff hp hzone hcell).mp hs)

end Period

namespace WindowSpec

variable {spec : WindowSpec} {zone : Zone} {current : Option Bounds} {ts : List Int} {t : Int}
variable {bounds : List Bounds}

/-! ### The current window -/

/-- The window of an instant is also the one of a later instant that it holds. -/
def Serves (spec : WindowSpec) (zone : Zone) (s t : Int) : Prop :=
  ∀ b, spec.windowOf zone s = .ok b → b.Contains spec.closed t → spec.windowOf zone t = .ok b

theorem boundsAt_of_contains {b : Bounds} (h : b.Contains spec.closed t) :
    spec.boundsAt zone (some b) t = .ok b := by
  rw [boundsAt, Option.filter_some, if_pos (decide_eq_true h)]

theorem boundsAt_eq_windowOf
    (h : ∀ b ∈ current, b.Contains spec.closed t → spec.windowOf zone t = .ok b) :
    spec.boundsAt zone current t = spec.windowOf zone t := by
  cases current with
  | none => rfl
  | some b =>
      by_cases hmem : b.Contains spec.closed t
      · rw [boundsAt_of_contains hmem, h b rfl hmem]
      · rw [boundsAt, Option.filter_some, if_neg (by simpa using hmem)]

/-- Windows that only serve instants of their own are the windows of the instants. -/
theorem boundsFrom_eq_mapM
    (hcurrent : ∀ b ∈ current, ∀ t ∈ ts.head?, b.Contains spec.closed t →
      spec.windowOf zone t = .ok b)
    (h : ts.IsChain (spec.Serves zone)) :
    spec.boundsFrom zone current ts = ts.mapM (spec.windowOf zone) := by
  induction ts generalizing current with
  | nil => rfl
  | cons t ts ih =>
      rw [boundsFrom, List.mapM_cons, boundsAt_eq_windowOf fun b hb => hcurrent b hb t rfl]
      cases hb : spec.windowOf zone t with
      | error e => rfl
      | ok b =>
          have hrest : spec.boundsFrom zone (some b) ts = ts.mapM (spec.windowOf zone) := by
            apply ih
            · intro b' hb' t' ht' hmem
              cases hb'
              cases ts with
              | nil => cases ht'
              | cons t₁ ts =>
                  cases ht'
                  exact (List.isChain_cons_cons.mp h).1 b hb hmem
            · exact h.tail
          change (spec.boundsFrom zone (some b) ts >>= fun others => pure (b :: others)) = _
          rw [hrest]
          rfl

/-- Where the windows are those of the instants, each serves only instants of its own. -/
theorem serves_of_boundsFrom (hbounds : spec.boundsFrom zone current ts = .ok bounds)
    (h : ts.mapM (spec.windowOf zone) = .ok bounds) : ts.IsChain (spec.Serves zone) := by
  induction ts generalizing current bounds with
  | nil => exact .nil
  | cons t ts ih =>
      obtain ⟨b, -, hbounds⟩ := bind_eq_ok_iff.mp hbounds
      obtain ⟨others, hothers, hbounds⟩ := bind_eq_ok_iff.mp hbounds
      cases hbounds
      rw [mapM_eq_ok_iff, List.forall₂_cons] at h
      cases ts with
      | nil => exact .singleton t
      | cons t' ts =>
          rw [List.isChain_cons_cons]
          refine ⟨?_, ih hothers (mapM_eq_ok_iff.mpr h.2)⟩
          intro c hc hmem
          cases Except.ok.inj (hc.symm.trans h.1)
          obtain ⟨b', hserved, hothers⟩ := bind_eq_ok_iff.mp hothers
          rw [boundsAt_of_contains hmem] at hserved
          cases hserved
          obtain ⟨rest, -, hothers⟩ := bind_eq_ok_iff.mp hothers
          cases hothers
          exact (List.forall₂_cons.mp h.2).1

/-! ### Steady clocks -/

variable {s : Int} {b b' : Bounds}

/-- No offset changes around the cell of any of the instants. -/
def Steady (spec : WindowSpec) (zone : Zone) (ts : List Int) : Prop :=
  ∀ t ∈ ts, ∀ c, spec.period.IsCell spec.closed (zone.reading t) c → Period.SteadyAround zone t c

/-- Around a steady cell, the instants of its window read within the cell. -/
theorem serves_of_steady (hp : spec.period.Regular) (hzone : zone.WellFormed)
    (hsteady : ∀ c, spec.period.IsCell spec.closed (zone.reading s) c →
      Period.SteadyAround zone s c) : spec.Serves zone s t := by
  intro b hb hmem
  obtain ⟨c, hcell, hlower, hupper⟩ := Period.windowOf_spec hp hb
  have hlt := hcell.contains.lower_lt_upper
  rw [Period.bounds_eq_of_steadyAround hzone hlt hlower hupper (hsteady c hcell)] at hmem
  obtain ⟨hlo, hhi⟩ := hzone.offsetAt_inRange s
  obtain ⟨hge, hle⟩ := hmem.le_and_le
  have hoffset : zone.offsetAt t = zone.offsetAt s :=
    hsteady c hcell t (by dsimp only at hge; omega) (by dsimp only at hle; omega)
  apply Period.windowOf_eq_ok_of_contains hp hzone hcell hb
  simp only [Zone.reading, hoffset]
  cases hclosed : spec.closed <;> rw [hclosed] at hmem <;> simp only [Bounds.Contains] at * <;> omega

/-- Around steady cells, windows that begin together are one. -/
theorem eq_of_lower_eq_of_steady (hp : spec.period.Regular) (hzone : zone.WellFormed)
    (hsteady : spec.Steady zone ts) (hs : s ∈ ts) (ht : t ∈ ts)
    (hb : spec.windowOf zone s = .ok b) (hb' : spec.windowOf zone t = .ok b')
    (heq : b.lower = b'.lower) : b = b' := by
  obtain ⟨c, hcell, hlower, hupper⟩ := Period.windowOf_spec hp hb
  obtain ⟨c', hcell', hlower', hupper'⟩ := Period.windowOf_spec hp hb'
  have hlt := hcell.contains.lower_lt_upper
  have hlt' := hcell'.contains.lower_lt_upper
  rw [Period.bounds_eq_of_steadyAround hzone hlt hlower hupper (hsteady s hs c hcell),
    Period.bounds_eq_of_steadyAround hzone hlt' hlower' hupper' (hsteady t ht c' hcell')] at heq ⊢
  obtain ⟨hlo, hhi⟩ := hzone.offsetAt_inRange s
  obtain ⟨hlo', hhi'⟩ := hzone.offsetAt_inRange t
  -- Both offsets are in force at the instant with which the two windows begin.
  have hstart : zone.offsetAt (c.lower - zone.offsetAt s) = zone.offsetAt s :=
    hsteady s hs c hcell _ (by omega) (by omega)
  have hstart' : zone.offsetAt (c'.lower - zone.offsetAt t) = zone.offsetAt t :=
    hsteady t ht c' hcell' _ (by omega) (by omega)
  have hoffset : zone.offsetAt s = zone.offsetAt t := by
    rw [← hstart, ← hstart']
    exact congrArg zone.offsetAt heq
  have hcells : c = c' := by
    apply hcell.eq_of_lower_eq hcell'
    dsimp only at heq
    omega
  rw [hcells, hoffset]

/-! ### Recomputation -/

variable {a : Assignment} {axis : TimeAxis} {table : Table}

/-- The windows of the rows are computed from the instant of each row on its own. -/
structure Recomputes (spec : WindowSpec) (zone : Zone) (shifted : List Int) (a : Assignment) :
    Prop where
  served : spec.boundsFrom zone none shifted = shifted.mapM (spec.windowOf zone)
  filed : ∀ (r : Nat) (t : Int), shifted[r]? = some t →
    ∃ w ∈ a.windows, r ∈ w.rows ∧ spec.windowOf zone t = .ok w.bounds

/-- The windows of the rows on their own serve the next rows rightly, and within a
group they do not begin together unless they are one. -/
structure Coheres (spec : WindowSpec) (zone : Zone) (shifted : List Int)
    (key : Nat → List Cell) : Prop where
  serves : shifted.IsChain (spec.Serves zone)
  keyed : ∀ (i j : Nat) (s t : Int) (b c : Bounds), shifted[i]? = some s → shifted[j]? = some t →
    key i = key j → spec.windowOf zone s = .ok b → spec.windowOf zone t = .ok c →
      b.lower = c.lower → b = c

variable {shifted : List Int} {key : Nat → List Cell}

theorem coheres_of_recomputes (hbounds : spec.boundsFrom zone none shifted = .ok bounds)
    (hgroups : a.Groups key) (hordered : a.Ordered) (h : spec.Recomputes zone shifted a) :
    spec.Coheres zone shifted key := by
  refine ⟨serves_of_boundsFrom hbounds (h.served.symm.trans hbounds), ?_⟩
  intro i j s t b c hs ht hkey hb hc hlower
  obtain ⟨v, hv, hi, hvb⟩ := h.filed i s hs
  obtain ⟨w, hw, hj, hwb⟩ := h.filed j t ht
  cases Except.ok.inj (hb.symm.trans hvb)
  cases Except.ok.inj (hc.symm.trans hwb)
  have hgroup := (hgroups.group_eq_iff v hv w hw i hi j hj).mpr hkey
  rw [hordered.eq_of_lower_eq hv hw hgroup hlower]

/-- Coherent windows make both short cuts right. -/
theorem recomputes_of_coheres {label : Label} {keys : List (List Cell)} {instants : List Int}
    (hbounds : spec.boundsFrom zone none shifted = .ok bounds)
    (hpartition : (Assignment.ofRows label keys bounds shifted instants).Partitions shifted.length)
    (hgroups : (Assignment.ofRows label keys bounds shifted instants).Groups key)
    (h : spec.Coheres zone shifted key) :
    spec.Recomputes zone shifted (Assignment.ofRows label keys bounds shifted instants) := by
  have hserved : spec.boundsFrom zone none shifted = shifted.mapM (spec.windowOf zone) :=
    boundsFrom_eq_mapM (by simp) h.serves
  refine ⟨hserved, ?_⟩
  rw [hserved] at hbounds
  intro r t ht
  obtain ⟨b, hb, hwindow⟩ := getElem?_of_mapM_eq_ok hbounds ht
  obtain ⟨w, hw, hr⟩ := hpartition.exists_window_iff.mpr (List.getElem?_eq_some_iff.mp ht).1
  obtain ⟨b', hb', hlower⟩ := Assignment.lower_eq_of_mem hw hr
  cases Option.some.inj (hb.symm.trans hb')
  -- The first row of the window, which decides its bounds, has the key and the lower end of `r`.
  obtain ⟨i, hi, hfirst⟩ := Assignment.exists_row_of_window hw
  have hlength := hpartition.exists_window_iff.mp ⟨w, hw, hi⟩
  obtain ⟨c, hc, hfirstWindow⟩ :=
    getElem?_of_mapM_eq_ok hbounds (List.getElem?_eq_getElem hlength)
  cases Option.some.inj (hc.symm.trans hfirst)
  have hkey := (hgroups.group_eq_iff w hw w hw r hr i hi).mp rfl
  refine ⟨w, hw, hr, ?_⟩
  rw [hwindow, h.keyed r i t _ b w.bounds ht (List.getElem?_eq_getElem hlength) hkey hwindow
    hfirstWindow hlower]

/-- Around steady cells the windows of rows cohere. -/
theorem coheres_of_steady (hp : spec.period.Regular) (hzone : zone.WellFormed)
    (h : spec.Steady zone shifted) : spec.Coheres zone shifted key := by
  constructor
  · rw [List.isChain_iff_getElem]
    intro i hi
    exact serves_of_steady hp hzone (h _ (List.getElem_mem _))
  · intro i j s t b c hs ht _ hb hc hlower
    exact eq_of_lower_eq_of_steady hp hzone h (List.mem_of_getElem? hs) (List.mem_of_getElem? ht)
      hb hc hlower

/-- The windows of an assignment are those of its rows on their own exactly when
these windows cohere. So they do where the clock is steady. -/
theorem assign_recomputes_iff (haxis : axis.instants.length = table.height)
    (hzone : axis.zone.WellFormed) (hperiod : Period.ofDuration spec.every = .ok spec.period)
    (h : (spec.assign table axis).outcome = .ok a) :
    ∃ columns shifted, table.groupColumns spec.groupBy = .ok columns ∧
      spec.shifted axis = .ok shifted ∧
      (spec.Recomputes axis.zone shifted a ↔
        spec.Coheres axis.zone shifted (Assignment.keyAt columns)) ∧
      (spec.Steady axis.zone shifted → spec.Recomputes axis.zone shifted a) := by
  obtain ⟨columns, shifted, bounds, hcolumns, hshifted, hbounds, rfl⟩ := assign_eq_ok_iff.mp h
  have hrows := Assignment.rows_plan columns haxis hshifted hbounds
  have hgroups := Assignment.groups_plan spec.label hrows
  have hpartition := Assignment.partitions_ofRows spec.label hrows
  rw [← haxis, ← length_shifted hshifted] at hpartition
  have hback := recomputes_of_coheres hbounds hpartition hgroups
  refine ⟨columns, shifted, hcolumns, hshifted,
    ⟨coheres_of_recomputes hbounds hgroups Window.ordered_list, hback⟩, ?_⟩
  intro hsteady
  exact hback (coheres_of_steady (Period.regular_of_ofDuration hperiod) hzone hsteady)

end WindowSpec

/-- The last instant of winter time in London, and the first one of summer time. -/
def Table.clockChange : Table where
  height := 2
  columns :=
    [⟨⟨"ts", .timestamp .nanosecond (some "Europe/London"), false⟩,
        [.int 1679792399999999999, .int 1679792400000000000], by decide⟩]
  uniform := by decide

/-- The instants around the clock change, read in London. -/
def TimeAxis.clockChange : TimeAxis where
  instants := [1679792399999999999, 1679792400000000000]
  zone := .london
  label := some "Europe/London"

namespace WindowSpec

theorem ofTable_clockChange : TimeAxis.ofTable .clockChange "ts" = .ok .clockChange := by
  rfl

/-- Windows of half an hour of the time column `ts`. -/
def halfHour : WindowSpec where
  timeColumn := "ts"
  every := ⟨[⟨30, .m, by decide⟩]⟩
  period := .fixed 1800000000000

/-- A window that ends with the clock change, and one that begins with it. -/
theorem assign_recomputes_iff_clockChange :
    ∃ a, create "ts" "30m" = .ok halfHour ∧
      (halfHour.assign .clockChange .clockChange).outcome = .ok a ∧
      ∃ columns shifted, Table.clockChange.groupColumns halfHour.groupBy = .ok columns ∧
        halfHour.shifted .clockChange = .ok shifted ∧
        (halfHour.Recomputes .london shifted a ↔
          halfHour.Coheres .london shifted (Assignment.keyAt columns)) ∧
        (halfHour.Steady .london shifted → halfHour.Recomputes .london shifted a) := by
  have hbounds : halfHour.boundsFrom .london none TimeAxis.clockChange.instants =
      .ok [⟨1679790600000000000, 1679792400000000000⟩,
        ⟨1679792400000000000, 1679794200000000000⟩] := by decide +kernel
  obtain ⟨a, hassign⟩ : ∃ a, (halfHour.assign .clockChange .clockChange).outcome = .ok a :=
    ⟨_, assign_eq_ok_iff.mpr ⟨[], _, _, rfl, rfl, hbounds, rfl⟩⟩
  obtain ⟨haxis, hzone⟩ := TimeAxis.ofTable_spec ofTable_clockChange
  exact ⟨a, by decide +kernel, hassign, assign_recomputes_iff haxis hzone (by rfl) hassign⟩

/-- Windows of 90 minutes of the time column `ts`. -/
def ninetyMinutes : WindowSpec where
  timeColumn := "ts"
  every := ⟨[⟨90, .m, by decide⟩]⟩
  period := .fixed 5400000000000

/-- The window of 90 minutes of the last instant of winter time serves the first one of
summer time, which has another window on its own. -/
theorem assign_clockChange_stale :
    ∃ a, create "ts" "90m" = .ok ninetyMinutes ∧
      TimeAxis.ofTable .clockChange "ts" = .ok .clockChange ∧ TimeAxis.clockChange.IsSorted ∧
      ninetyMinutes.shifted .clockChange = .ok [1679792399999999999, 1679792400000000000] ∧
      (ninetyMinutes.assign .clockChange .clockChange).outcome = .ok a ∧
      ¬∃ w ∈ a.windows, 1 ∈ w.rows ∧
        ninetyMinutes.windowOf .london 1679792400000000000 = .ok w.bounds := by
  have hbounds : ninetyMinutes.boundsFrom .london none TimeAxis.clockChange.instants =
      .ok [⟨1679788800000000000, 1679794200000000000⟩,
        ⟨1679788800000000000, 1679794200000000000⟩] := by decide +kernel
  have hassign : (ninetyMinutes.assign .clockChange .clockChange).outcome = .ok
      (Assignment.ofRows .left [[], []] _ TimeAxis.clockChange.instants
        TimeAxis.clockChange.instants) :=
    assign_eq_ok_iff.mpr ⟨[], _, _, rfl, rfl, hbounds, rfl⟩
  have hwindows : (Assignment.ofRows .left [[], []]
      [⟨1679788800000000000, 1679794200000000000⟩, ⟨1679788800000000000, 1679794200000000000⟩]
      TimeAxis.clockChange.instants TimeAxis.clockChange.instants).windows =
      [⟨0, ⟨1679788800000000000, 1679794200000000000⟩, 1679788800000000000, [0, 1], 2⟩] :=
    Window.list_eq_of_ordered (by decide)
  have hown : ninetyMinutes.windowOf .london 1679792400000000000 =
      .ok ⟨1679794200000000000, 1679796000000000000⟩ := by decide +kernel
  refine ⟨_, by decide +kernel, ofTable_clockChange, by decide, rfl, hassign, ?_⟩
  rintro ⟨w, hw, -, hwindow⟩
  rw [hwindows] at hw
  cases List.mem_singleton.mp hw
  rw [hown] at hwindow
  exact absurd hwindow (by decide)

end WindowSpec

end Cadence
