import Cadence.Proofs.Window.Assignment
import Mathlib.Data.List.Induction

/-!
# Windows of earlier instants

An offset moves the instants that windows are computed from, and leaves those alone that are
counted. Counting only asks whether an instant is that of the row before. So rows moved back by
a fixed span are put into the same windows as rows whose instants really are that much earlier.
-/

namespace Cadence

/-- The axis with all instants an amount of nanoseconds earlier. -/
def TimeAxis.earlier (axis : TimeAxis) (nanos : Int) : TimeAxis :=
  { axis with instants := axis.instants.map (· - nanos) }

/-! ### Instants that are only counted -/

/-- The placement with another instant to count. -/
def Placement.seenAs (f : Int → Int) (p : Placement) : Placement :=
  { p with instant := f p.instant }

/-- The window with another instant of its latest row. -/
def OpenWindow.seenAs (f : Int → Int) (w : OpenWindow) : OpenWindow :=
  { w with lastSeen := f w.lastSeen }

variable {f : Int → Int} {label : Label} {p : Placement} {ps : List Placement}

theorem Placement.list_map_instants (f : Int → Int) (groups : List Nat) (bounds : List Bounds)
    (shifted instants : List Int) : list groups bounds shifted (instants.map f) =
      (list groups bounds shifted instants).map (seenAs f) := by
  rw [list, list, List.zip_map_right, List.zip_map_right, List.zipIdx_map, List.map_map,
    List.map_map]
  rfl

namespace OpenWindow

section Injective

variable (hf : Function.Injective f)
include hf

theorem add_seenAs (w : OpenWindow) (p : Placement) :
    (w.seenAs f).add (p.seenAs f) = (w.add p).seenAs f := by
  simp only [add, seenAs, Placement.seenAs, hf.eq_iff]

theorem file_seenAs (label : Label) (p : Placement) (ws : List OpenWindow) :
    file label (p.seenAs f) (ws.map (seenAs f)) = (file label p ws).map (seenAs f) := by
  induction ws with
  | nil => rfl
  | cons w ws ih =>
      have hslot : (w.seenAs f).slot = (p.seenAs f).slot ↔ w.slot = p.slot := Iff.rfl
      rw [List.map_cons, file, file]
      by_cases h : w.slot = p.slot
      · rw [if_pos (hslot.mpr h), if_pos h, add_seenAs hf, List.map_cons]
      · rw [if_neg (mt hslot.mp h), if_neg h, ih, List.map_cons]

theorem fileAll_seenAs (label : Label) (ps : List Placement) :
    fileAll label (ps.map (Placement.seenAs f)) = (fileAll label ps).map (seenAs f) := by
  induction ps using List.reverseRecOn with
  | nil => rfl
  | append_singleton ps p ih =>
      unfold fileAll at ih ⊢
      rw [List.map_append, List.foldl_append, List.foldl_append, ih]
      exact file_seenAs hf label p _

end Injective

end OpenWindow

/-- Windows count instants, and are the same for other ones that differ where these do. -/
theorem Assignment.ofRows_map_instants (hf : Function.Injective f) (label : Label)
    (keys : List (List Cell)) (bounds : List Bounds) (shifted instants : List Int) :
    ofRows label keys bounds shifted (instants.map f) =
      ofRows label keys bounds shifted instants := by
  rw [ofRows, ofRows, Placement.list_map_instants, Window.list, Window.list,
    OpenWindow.fileAll_seenAs hf, List.map_map]
  rfl

/-! ### Moved windows -/

namespace WindowSpec

variable {spec : WindowSpec} {t u : Table} {axis : TimeAxis} {offset : StartOffset}

theorem boundsFrom_of_offset (spec : WindowSpec) (offset : Option StartOffset) (zone : Zone)
    (current : Option Bounds) (ts : List Int) :
    { spec with offset }.boundsFrom zone current ts = spec.boundsFrom zone current ts := by
  induction ts generalizing current with
  | nil => rfl
  | cons t ts ih =>
      simp only [boundsFrom, ih]
      rfl

theorem shifted_of_isFixed (hspan : offset.span.IsFixed)
    (hfits : ∀ i ∈ axis.instants, Counter.Fits (i - offset.span.nanos)) :
    { spec with offset := some offset }.shifted axis =
      .ok (axis.earlier offset.span.nanos).instants := by
  change axis.instants.mapM (axis.zone.shiftBack offset.span) = .ok (axis.instants.map _)
  rw [mapM_eq_ok_iff, List.forall₂_map_right_iff, List.forall₂_same]
  intro i hi
  rw [Zone.shiftBack, if_pos hspan]
  exact Counter.require_eq_ok_iff.mpr ⟨hfits i hi, rfl⟩

/-- An offset of fixed length puts rows into the windows of rows that are that much earlier. -/
theorem assign_of_isFixed (hnone : spec.offset = none) (hspan : offset.span.IsFixed)
    (hfits : ∀ i ∈ axis.instants, Counter.Fits (i - offset.span.nanos))
    (hheight : u.height = t.height)
    (hgroups : u.groupColumns spec.groupBy = t.groupColumns spec.groupBy) :
    { spec with offset := some offset }.assign t axis =
      spec.assign u (axis.earlier offset.span.nanos) := by
  have hmoved : spec.shifted (axis.earlier offset.span.nanos) =
      .ok (axis.earlier offset.span.nanos).instants := by rw [shifted, hnone]
  have hkeys : ∀ columns, u.groupKeys columns = t.groupKeys columns := by
    intro columns
    rw [Table.groupKeys, Table.groupKeys, hheight]
  have hinjective : Function.Injective fun i : Int => i - offset.span.nanos := by
    intro i j h
    dsimp only at h
    omega
  have hplan : Assignment.plan { spec with offset := some offset } t axis =
      Assignment.plan spec u (axis.earlier offset.span.nanos) := by
    simp only [Assignment.plan, shifted_of_isFixed hspan hfits, hmoved, hgroups, ok_bind,
      boundsFrom_of_offset, hkeys]
    simp only [TimeAxis.earlier, Assignment.ofRows_map_instants hinjective]
  rw [assign, assign, hplan, hheight]
  rfl

end WindowSpec

end Cadence
