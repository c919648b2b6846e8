import Cadence.Proofs.Pattern.Meaning
import Cadence.Proofs.Table.Rows
import Cadence.TimeFilter

/-!
# Rows that a time filter keeps

A time filter looks at one row at a time: whether a row is kept depends on its own reading only,
and a selection of rows has the readings of the rows that were selected. A reading is kept when
every pattern spares it, so several filters that follow each other keep what one filter of all
their patterns keeps, in whatever order they come and however often a pattern is repeated.
-/

namespace Cadence

/-! ### Spared readings -/

namespace Pattern

variable {sources others : List String} {predicate predicate' : Predicate} {r : Reading}

/-- A pattern, as it is written, does not match a reading. -/
def Spares (source : String) (r : Reading) : Prop :=
  ∀ p, Pattern.parse source = .ok p → p.predicate.eval r = false

/-- Every pattern can be read. -/
def Readable (sources : List String) : Prop := ∀ source ∈ sources, ∃ p, Pattern.parse source = .ok p

theorem Readable.append (h : Readable sources) (h' : Readable others) :
    Readable (sources ++ others) :=
  List.forall_mem_append.mpr ⟨h, h'⟩

theorem exists_compile (h : Readable sources) : ∃ predicate, compile sources = .ok predicate := by
  obtain ⟨patterns, hpatterns⟩ := exists_forall₂ h
  exact ⟨keep patterns, bind_eq_ok_iff.mpr ⟨patterns, mapM_eq_ok_iff.mpr hpatterns, rfl⟩⟩

/-- A reading is kept when every pattern spares it. -/
theorem eval_iff_spares (h : compile sources = .ok predicate) :
    predicate.eval r = true ↔ ∀ source ∈ sources, Spares source r := by
  obtain ⟨patterns, hread, hkeep⟩ := bind_eq_ok_iff.mp h
  cases hkeep
  rw [eval_keep_iff]
  constructor
  · intro hall source hsource p hp
    obtain ⟨i, hi, rfl⟩ := List.mem_iff_getElem.mp hsource
    obtain ⟨q, hq, hparse⟩ := getElem?_of_mapM_eq_ok hread (List.getElem?_eq_getElem hi)
    cases hparse.symm.trans hp
    exact hall p (List.mem_of_getElem? hq)
  · intro hall p hp
    obtain ⟨source, hsource, hparse⟩ := exists_of_mapM_eq_ok hread hp
    exact hall source hsource p hparse

end Pattern

/-- A table of those rows of another that pass a test, in their order and with all columns. -/
structure Table.Keeps (t out : Table) (test : Nat → Bool) : Prop where
  schema : out.schema = t.schema
  rows : out.rows = ((List.range t.height).filter test).map t.row

theorem Table.keeps_select (t : Table) (test : Nat → Bool) :
    t.Keeps (t.select ((List.range t.height).filter test)) test :=
  ⟨t.schema_select _, t.rows_select _⟩

/-- A test that lets fewer rows pass leaves fewer rows. -/
theorem Table.Keeps.sublist {t out rest : Table} {test test' : Nat → Bool} (h : t.Keeps out test)
    (h' : t.Keeps rest test') (htest : ∀ row, test' row = true → test row = true) :
    rest.rows.Sublist out.rows := by
  rw [h.rows, h'.rows]
  exact (List.monotone_filter_right _ htest).map _

namespace TimeFilter

variable {f g both : TimeFilter} {t : Table} {axis : TimeAxis} {rows : List Nat} {name : String}
variable {ps qs : List String}

theorem create_eq_ok_iff : create name ps = .ok f ↔
    f.timeColumn = name ∧ f.patterns = ps ∧ Pattern.compile ps = .ok f.keep := by
  simp only [create, bind_eq_ok_iff, mapError_eq_ok_iff]
  constructor
  · rintro ⟨keep, hkeep, hf⟩
    cases hf
    exact ⟨rfl, rfl, hkeep⟩
  · rintro ⟨rfl, rfl, hkeep⟩
    exact ⟨f.keep, hkeep, rfl⟩

theorem exists_create (h : Pattern.Readable ps) (name : String) : ∃ f, create name ps = .ok f := by
  obtain ⟨keep, hkeep⟩ := Pattern.exists_compile h
  exact ⟨⟨name, ps, keep⟩, create_eq_ok_iff.mpr ⟨rfl, rfl, hkeep⟩⟩

/-! ### Kept rows -/

/-- Whether a row of a time axis is kept. -/
def keeps (f : TimeFilter) (axis : TimeAxis) (row : Nat) : Bool :=
  f.keep.eval (axis.zone.reading (axis.instantAt row))

/-- A filter keeps the rows whose readings all of its patterns spare. -/
theorem keeps_iff (h : create name ps = .ok f) {row : Nat} :
    f.keeps axis row = true ↔
      ∀ source ∈ ps, Pattern.Spares source (axis.zone.reading (axis.instantAt row)) :=
  Pattern.eval_iff_spares (create_eq_ok_iff.mp h).2.2

/-- Lists of the same patterns keep the same rows. -/
theorem keeps_congr (hf : create name ps = .ok f) (hg : create name qs = .ok g)
    (h : ∀ source, source ∈ ps ↔ source ∈ qs) : f.keeps axis = g.keeps axis := by
  funext row
  rw [Bool.eq_iff_iff, keeps_iff hf, keeps_iff hg]
  exact forall_congr' fun source => imp_congr_left (h source)

theorem keeps_append (hf : create name ps = .ok f) (hg : create name qs = .ok g)
    (hboth : create name (ps ++ qs) = .ok both) :
    both.keeps axis = fun row => f.keeps axis row && g.keeps axis row := by
  funext row
  rw [Bool.eq_iff_iff, Bool.and_eq_true, keeps_iff hf, keeps_iff hg, keeps_iff hboth,
    List.forall_mem_append]

variable [Zone.Database]

theorem kept_eq_error {e : Error} (h : TimeAxis.ofTable t f.timeColumn = .error e) :
    f.kept t = .error e := by
  unfold kept mask
  rw [h]
  rfl

/-- A filter looks at one row at a time. -/
theorem kept_select (h : TimeAxis.ofTable t f.timeColumn = .ok axis)
    (hrows : ∀ row ∈ rows, row < t.height) :
    f.kept (t.select rows) = .ok (t.select (rows.filter (f.keeps axis))) := by
  have hmask : f.mask (t.select rows) = .ok (rows.map (f.keeps axis)) := by
    apply bind_eq_ok_iff.mpr ⟨_, TimeAxis.ofTable_select h hrows, _⟩
    simp only [TimeAxis.select, List.map_map]
    rfl
  apply bind_eq_ok_iff.mpr ⟨_, hmask, _⟩
  apply congrArg Except.ok
  apply Table.filterRows_select
  intro place hplace
  simp [hplace]

/-- The rows of a table that are kept. -/
theorem kept_eq (h : TimeAxis.ofTable t f.timeColumn = .ok axis) :
    f.kept t = .ok (t.select ((List.range t.height).filter (f.keeps axis))) := by
  have hall := kept_select h fun row (hrow : row ∈ List.range t.height) => List.mem_range.mp hrow
  rwa [Table.select_range] at hall

theorem transform_outcome_eq (h : TimeAxis.ofTable t f.timeColumn = .ok axis) :
    (f.transform t).outcome = .ok (t.select ((List.range t.height).filter (f.keeps axis))) := by
  rw [transform, Journaled.outcome_noting, kept_eq h]

/-- Of two filters in a row, the second looks at the rows of the table as well. -/
theorem transform_transform_outcome_eq (hf : TimeAxis.ofTable t f.timeColumn = .ok axis)
    (hg : TimeAxis.ofTable t g.timeColumn = .ok axis) :
    ((f.transform t).outcome >>= fun u => (g.transform u).outcome) =
      .ok (t.select ((List.range t.height).filter fun row => f.keeps axis row && g.keeps axis row))
    := by
  have hrows : ∀ row ∈ (List.range t.height).filter (f.keeps axis), row < t.height :=
    fun row hrow => List.mem_range.mp (List.mem_of_mem_filter hrow)
  rw [transform_outcome_eq hf, ok_bind, transform, Journaled.outcome_noting,
    kept_select hg hrows, List.filter_filter]
  simp only [Bool.and_comm]

theorem transform_again (h : TimeAxis.ofTable t f.timeColumn = .ok axis) :
    ((f.transform t).outcome >>= fun u => (f.transform u).outcome) = (f.transform t).outcome := by
  rw [transform_transform_outcome_eq h h, transform_outcome_eq h]
  simp only [Bool.and_self]

theorem transform_comm (hf : TimeAxis.ofTable t f.timeColumn = .ok axis)
    (hg : TimeAxis.ofTable t g.timeColumn = .ok axis) :
    ((f.transform t).outcome >>= fun u => (g.transform u).outcome) =
      (g.transform t).outcome >>= fun u => (f.transform u).outcome := by
  rw [transform_transform_outcome_eq hf hg, transform_transform_outcome_eq hg hf]
  simp only [Bool.and_comm]

/-! ### Patterns of several filters -/

theorem timeColumn_usable (hf : create name ps = .ok f)
    (haxis : TimeAxis.ofTable t name = .ok axis) : TimeAxis.ofTable t f.timeColumn = .ok axis := by
  rwa [(create_eq_ok_iff.mp hf).1]

theorem transform_congr (haxis : TimeAxis.ofTable t name = .ok axis) (hf : create name ps = .ok f)
    (hg : create name qs = .ok g) (h : ∀ source, source ∈ ps ↔ source ∈ qs) :
    (f.transform t).outcome = (g.transform t).outcome := by
  rw [transform_outcome_eq (timeColumn_usable hf haxis),
    transform_outcome_eq (timeColumn_usable hg haxis), keeps_congr hf hg h]

/-- Filters that follow each other do what the filter of all their patterns does. -/
theorem transform_comp (haxis : TimeAxis.ofTable t name = .ok axis) (hf : create name ps = .ok f)
    (hg : create name qs = .ok g) (hboth : create name (ps ++ qs) = .ok both) :
    ((f.transform t).outcome >>= fun u => (g.transform u).outcome) =
      (both.transform t).outcome := by
  rw [transform_transform_outcome_eq (timeColumn_usable hf haxis) (timeColumn_usable hg haxis),
    transform_outcome_eq (timeColumn_usable hboth haxis), keeps_append hf hg hboth]

/-- On a table with a time column, patterns that can be read make a filter that keeps exactly the
rows whose own reading satisfies the predicate of the patterns. To filter again changes nothing,
and filters that follow each other, in either order, do what one filter of all their patterns
does: patterns only remove rows, and it does not matter how they are ordered or repeated. -/
theorem transform_pointwise (hps : Pattern.Readable ps) (hqs : Pattern.Readable qs)
    (haxis : TimeAxis.ofTable t name = .ok axis) :
    ∃ f g both, create name ps = .ok f ∧ create name qs = .ok g ∧
      create name (ps ++ qs) = .ok both ∧ Pattern.compile ps = .ok f.keep ∧
      ∃ out rest, (f.transform t).outcome = .ok out ∧
        t.Keeps out (fun row => f.keep.eval (axis.zone.reading (axis.instantAt row))) ∧
        (f.transform out).outcome = .ok out ∧
        (g.transform out).outcome = .ok rest ∧
        ((g.transform t).outcome >>= fun u => (f.transform u).outcome) = .ok rest ∧
        (both.transform t).outcome = .ok rest ∧
        rest.schema = out.schema ∧ rest.rows.Sublist out.rows ∧
        ∀ rs, (∀ source, source ∈ rs ↔ source ∈ ps) →
          ∃ h, create name rs = .ok h ∧ (h.transform t).outcome = .ok out := by
  obtain ⟨f, hf⟩ := exists_create hps name
  obtain ⟨g, hg⟩ := exists_create hqs name
  obtain ⟨both, hboth⟩ := exists_create (hps.append hqs) name
  have hfirst := timeColumn_usable hf haxis
  have hsecond := timeColumn_usable hg haxis
  have hout := transform_outcome_eq hfirst
  have hrest := transform_outcome_eq (timeColumn_usable hboth haxis)
  have hkept := t.keeps_select (f.keeps axis)
  have hkeptBoth := t.keeps_select (both.keeps axis)
  have hcomp := (transform_comp haxis hf hg hboth).trans hrest
  refine ⟨f, g, both, hf, hg, hboth, (create_eq_ok_iff.mp hf).2.2, _, _, hout, hkept,
    ?again, ?after, (transform_comm hsecond hfirst).trans hcomp, hrest,
    hkeptBoth.schema.trans hkept.schema.symm, ?fewer, ?same⟩
  case again =>
    have hagain := transform_again hfirst
    rwa [hout, ok_bind] at hagain
  case after => rwa [hout, ok_bind] at hcomp
  case fewer =>
    apply hkept.sublist hkeptBoth
    intro row hrow
    rw [keeps_append hf hg hboth, Bool.and_eq_true] at hrow
    exact hrow.1
  case same =>
    intro rs hrs
    have hread : Pattern.Readable rs := fun source hsource => hps source ((hrs source).mp hsource)
    obtain ⟨h, hh⟩ := exists_create hread name
    exact ⟨h, hh, (transform_congr haxis hh hf hrs).trans hout⟩

end TimeFilter

/-- Half past one of a night, then half past twelve of the next, in which the clock goes forward,
then two o'clock of that night, which comes half an hour later. -/
def Table.nights : Table where
  height := 3
  columns :=
    [⟨⟨"ts", .timestamp .nanosecond (some "Europe/London"), false⟩,
        [.int 1679707800000000000, .int 1679790600000000000, .int 1679792400000000000],
        by decide⟩,
      ⟨⟨"load", .integer .int64, true⟩, [.int 5, .null, .int 7], by decide⟩]
  uniform := by decide

/-- The three instants, read in London. -/
def TimeAxis.nights : TimeAxis where
  instants := [1679707800000000000, 1679790600000000000, 1679792400000000000]
  zone := .london
  label := some "Europe/London"

namespace TimeFilter

/-- The second row lies in the first hour of its day. -/
theorem transform_pointwise_nights :
    Pattern.Readable ["<1h"] ∧ Pattern.Readable ["<2h"] ∧
      TimeAxis.ofTable .nights "ts" = .ok .nights ∧
      ∃ f g out rest, create "ts" ["<1h"] = .ok f ∧ create "ts" ["<2h"] = .ok g ∧
        (f.transform .nights).outcome = .ok out ∧ (g.transform out).outcome = .ok rest ∧
        out.rows = [[.int 1679707800000000000, .int 5], [.int 1679792400000000000, .int 7]] ∧
        rest.rows.Sublist out.rows := by
  have hfirst : Pattern.parse "<1h" = .ok ⟨"<1h", [⟨.lt, ⟨[⟨1, .h, by decide⟩]⟩, .simple⟩]⟩ := by
    decide +kernel
  have hsecond : Pattern.parse "<2h" = .ok ⟨"<2h", [⟨.lt, ⟨[⟨2, .h, by decide⟩]⟩, .simple⟩]⟩ := by
    decide +kernel
  have hps : Pattern.Readable ["<1h"] := List.forall_mem_singleton.mpr ⟨_, hfirst⟩
  have hqs : Pattern.Readable ["<2h"] := List.forall_mem_singleton.mpr ⟨_, hsecond⟩
  have haxis : TimeAxis.ofTable .nights "ts" = .ok .nights := by rfl
  obtain ⟨f, g, both, hf, hg, -, hcompile, out, rest, hout, hkept, -, hrest, -, -, -, hfewer, -⟩ :=
    transform_pointwise hps hqs haxis
  have hkeep : Pattern.compile ["<1h"] =
      .ok (.negation (.anyOf [.allOf [.allOf [.compare .hour .lt 1]]])) :=
    bind_eq_ok_iff.mpr ⟨_, mapM_eq_ok_iff.mpr (.cons hfirst .nil), rfl⟩
  have hpredicate := Except.ok.inj (hcompile.symm.trans hkeep)
  refine ⟨hps, hqs, haxis, f, g, out, rest, hf, hg, hout, hrest, ?_, hfewer⟩
  rw [hkept.rows, hpredicate]
  decide +kernel

end TimeFilter

end Cadence
