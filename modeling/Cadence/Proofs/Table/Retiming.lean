import Cadence.Proofs.Table.TimeOrder
import Cadence.Proofs.Window.FewerRows
import Cadence.Proofs.Window.Offset

/-!
# Tables with another time column

Tables that agree on all columns but those of one name have the same other columns under every
name. When the time column is replaced by one with all instants moved by the same amount, the
rows keep their order in time.
-/

namespace Cadence

/-! ### The first item of a list that passes a test -/

section First

variable {α : Type} {p : α → Bool} {l : List α} {x y : α}

theorem find?_set_findIdx (h : l.find? p = some y) (hx : p x) :
    (l.set (l.findIdx p) x).find? p = some x := by
  induction l with
  | nil => cases h
  | cons a l ih =>
      rw [List.findIdx_cons]
      by_cases ha : p a
      · rw [ha, cond_true, List.set_cons_zero, List.find?_cons_of_pos hx]
      · rw [List.find?_cons_of_neg ha] at h
        rw [Bool.eq_false_iff.mpr ha, cond_false, List.set_cons_succ, List.find?_cons_of_neg ha]
        exact ih h

theorem filter_not_set_findIdx (hx : p x) :
    (l.set (l.findIdx p) x).filter (!p ·) = l.filter (!p ·) := by
  induction l with
  | nil => rfl
  | cons a l ih =>
      rw [List.findIdx_cons]
      by_cases ha : p a
      · rw [ha, cond_true, List.set_cons_zero, List.filter_cons_of_neg (by simp [hx]),
          List.filter_cons_of_neg (by simp [ha])]
      · rw [Bool.eq_false_iff.mpr ha, cond_false, List.set_cons_succ,
          List.filter_cons_of_pos (by simp [ha]), List.filter_cons_of_pos (by simp [ha]), ih]

end First

/-! ### Tables that agree beside some columns -/

namespace Table

variable {name other : String} {names : List String} {t u : Table} {rows : List Nat}

/-- The columns of other names. -/
def columnsBeside (t : Table) (name : String) : List Column :=
  t.columns.filter fun c => !decide (c.name = name)

/-- Tables of one height whose columns are the same, but for those of one name. -/
structure AgreeBeside (name : String) (t u : Table) : Prop where
  height : u.height = t.height
  columns : u.columnsBeside name = t.columnsBeside name

namespace AgreeBeside

theorem select (h : AgreeBeside name t u) (rows : List Nat) :
    AgreeBeside name (t.select rows) (u.select rows) where
  height := rfl
  columns := by
    change (u.columns.map (·.select rows)).filter _ = (t.columns.map (·.select rows)).filter _
    rw [List.filter_map, List.filter_map]
    exact congrArg (List.map (·.select rows)) h.columns

theorem column?_eq (h : AgreeBeside name t u) (hother : other ≠ name) :
    u.column? other = t.column? other := by
  have hbeside : ∀ v : Table, v.column? other = (v.columnsBeside name).find? (·.name = other) := by
    intro v
    rw [column?, columnsBeside, List.find?_filter]
    congr 1
    funext c
    by_cases hc : c.name = other <;> simp [hc, hother]
  rw [hbeside, hbeside, h.columns]

theorem groupColumns_eq (h : AgreeBeside name t u) (hnames : name ∉ names) :
    u.groupColumns names = t.groupColumns names := by
  apply mapM_congr
  intro other hother
  rw [h.column?_eq fun heq => hnames (heq ▸ hother)]

end AgreeBeside

/-- The table with the instants of an axis for its time column. -/
def retime (t : Table) (name : String) (axis : TimeAxis) (nullable : Bool) : Table where
  height := t.height
  columns := t.columns.set (t.columns.findIdx (·.name = name))
    { axis.column name ((List.range t.height).map axis.instantAt) with nullable }
  uniform := by
    intro c hc
    rcases List.mem_or_eq_of_mem_set hc with hc | rfl
    · exact t.uniform c hc
    · simp [TimeAxis.column]

theorem agreeBeside_retime (t : Table) (name : String) (axis : TimeAxis) (nullable : Bool) :
    AgreeBeside name t (t.retime name axis nullable) where
  height := rfl
  columns := by
    apply filter_not_set_findIdx
    exact decide_eq_true rfl

end Table

/-! ### Earlier instants -/

namespace TimeAxis

variable {t : Table} {name : String} {axis axis' : TimeAxis} {rows : List Nat} {nanos : Int}

/-- A column of instants that counters can hold gives a table these instants. -/
theorem ofTable_retime [Zone.Database]
    (h : ofTable t name = .ok axis) (hlength : axis'.instants.length = t.height)
    (hfits : ∀ i ∈ axis'.instants, Counter.Fits i) (hzone : axis'.zone = axis.zone)
    (hlabel : axis'.label = axis.label) (nullable : Bool) :
    ofTable (t.retime name axis' nullable) name = .ok axis' := by
  obtain ⟨c, hc, -, -, -, -, hzoneOf⟩ := ofTable_eq_ok_iff.mp h
  have hinstants : (List.range t.height).map axis'.instantAt = axis'.instants := by
    rw [← hlength]
    exact map_getD_range _ _
  refine ofTable_eq_ok_iff.mpr
    ⟨_, find?_set_findIdx hc (decide_eq_true rfl), rfl, ?_, ?_, rfl, ?_⟩
  · rw [Column.nullCount_eq_zero_iff]
    refine .inr fun hnull => ?_
    obtain ⟨i, -, hi⟩ := List.mem_map.mp hnull
    cases hi
  · have hread : instantsOf (axis'.column name axis'.instants) = .ok axis'.instants :=
      instantsOf_column hfits
    rw [hinstants]
    exact hread
  · rw [hlabel, hzone]
    exact hzoneOf

theorem instantAt_earlier {row : Nat} (h : row < axis.instants.length) :
    (axis.earlier nanos).instantAt row = axis.instantAt row - nanos := by
  simp [instantAt, earlier, h]

theorem select_earlier (h : ∀ row ∈ rows, row < axis.instants.length) :
    (axis.earlier nanos).select rows = (axis.select rows).earlier nanos := by
  have hinstants : rows.map (axis.earlier nanos).instantAt =
      (rows.map axis.instantAt).map (· - nanos) := by
    rw [List.map_map]
    apply List.map_congr_left
    intro row hrow
    exact instantAt_earlier (h row hrow)
  rw [select, hinstants]
  rfl

/-- Instants that are moved together keep their order. -/
theorem arrange_earlier (h : ∀ row ∈ rows, row < axis.instants.length) :
    (axis.earlier nanos).arrange rows = axis.arrange rows := by
  have hsame : ∀ a ∈ rows, ∀ b ∈ rows,
      axis.precedes a b = (axis.earlier nanos).precedes (id a) (id b) := by
    intro a ha b hb
    rw [precedes, precedes, id, id, instantAt_earlier (h a ha), instantAt_earlier (h b hb)]
    exact decide_eq_decide.mpr (by omega)
  have hsorted := List.map_mergeSort hsame
  rwa [List.map_id, List.map_id, eq_comm] at hsorted

end TimeAxis

/-- The timeline of earlier instants lists the same rows. -/
theorem Timeline.ofTable_earlier [Zone.Database]
    {t u : Table} {name : String} {axis : TimeAxis} {nanos : Int}
    (haxis : TimeAxis.ofTable t name = .ok axis)
    (hearlier : TimeAxis.ofTable u name = .ok (axis.earlier nanos))
    (hheight : u.height = t.height) :
    ∃ rows : List Nat, (∀ row ∈ rows, row < axis.instants.length) ∧
      ofTable t name = .ok ⟨t.select rows, axis.select rows⟩ ∧
      ofTable u name = .ok ⟨u.select rows, (axis.select rows).earlier nanos⟩ := by
  have hlength := (TimeAxis.ofTable_spec haxis).1
  have hrange : ∀ row ∈ List.range t.height, row < axis.instants.length := fun row hrow =>
    hlength ▸ List.mem_range.mp hrow
  have hrows : ∀ row ∈ axis.arrange (List.range t.height), row < axis.instants.length :=
    fun row hrow => hrange row (TimeAxis.mem_arrange.mp hrow)
  refine ⟨_, hrows, ofTable_eq haxis, ?_⟩
  rw [ofTable_eq hearlier, hheight, TimeAxis.arrange_earlier hrange,
    TimeAxis.select_earlier hrows]

end Cadence
