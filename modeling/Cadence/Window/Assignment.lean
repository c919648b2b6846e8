import Cadence.Journal
import Cadence.Window.Spec

/-! # Assigning rows to windows

Every row gets the window of its shifted instant and the group of its key. Rows
are filed one after the other: a row joins the window of its group that begins
where its own does, or opens a new one. Groups are numbered in the order in which
they appear, and windows are in the order of their groups, then of their lower
ends. -/

namespace Cadence

/-- What a row brings to its window. -/
structure Placement where
  row : Nat
  group : Nat
  bounds : Bounds
  shifted : Int
  instant : Int
deriving DecidableEq, Repr

/-- The group of each row, and the keys of the groups in the order of their numbers. -/
structure Grouping where
  rows : List Nat
  keys : List (List Cell)
deriving DecidableEq, Repr

/-- A group and the lower end of a window. -/
structure Slot where
  group : Nat
  lower : Int
deriving DecidableEq, Repr

/-- A window of one group, with its rows. -/
structure Window where
  group : Nat
  bounds : Bounds
  label : Int
  rows : List Nat
  /-- The number of different instants among the rows. -/
  distinct : Nat
deriving DecidableEq, Repr

/-- A window that more rows may join, and the instant of its latest row. -/
structure OpenWindow where
  window : Window
  lastSeen : Int
deriving DecidableEq, Repr

/-- The windows of a table, and the keys of its groups. -/
structure Assignment where
  windows : List Window
  groups : List (List Cell)
deriving DecidableEq, Repr

/-- A group and a window of it, across tables. -/
structure WindowKey where
  group : List Cell
  lower : Int
deriving DecidableEq, Repr

namespace Table

/-- The columns that rows are grouped by. -/
def groupColumns (t : Table) (names : List String) : Except Error (List Column) :=
  names.mapM fun name =>
    (t.column? name).elim (.error (.data (.missingColumn .groupBy name))) .ok

/-- The key of each row. -/
def groupKeys (t : Table) (columns : List Column) : List (List Cell) :=
  (List.range t.height).map fun row => columns.map (·.cell row)

end Table

/-- Numbers the groups of the keys in turn. A key that is not known yet gets the
next number. -/
def Grouping.extend (known : List (List Cell)) : List (List Cell) → Grouping
  | [] => ⟨[], known⟩
  | key :: rest =>
      let others := extend (if key ∈ known then known else known ++ [key]) rest
      ⟨known.idxOf key :: others.rows, others.keys⟩

namespace WindowSpec

/-- The window of an instant, unless the current one holds it already. -/
def boundsAt (spec : WindowSpec) (zone : Zone) (current : Option Bounds) (t : Int) :
    Except Error Bounds :=
  match current.filter fun b => b.Contains spec.closed t with
  | some b => .ok b
  | none => spec.windowOf zone t

/-- The windows of some instants. The window of an instant serves the following
ones as long as they belong to it. -/
def boundsFrom (spec : WindowSpec) (zone : Zone) (current : Option Bounds) :
    List Int → Except Error (List Bounds)
  | [] => .ok []
  | t :: rest => do
      let b ← spec.boundsAt zone current t
      let others ← spec.boundsFrom zone (some b) rest
      return b :: others

end WindowSpec

namespace Placement

def slot (p : Placement) : Slot := ⟨p.group, p.bounds.lower⟩

/-- The placements of rows with these groups, windows and instants. -/
def list (groups : List Nat) (bounds : List Bounds) (shifted instants : List Int) :
    List Placement :=
  ((groups.zip bounds).zip (shifted.zip instants)).zipIdx.map fun x =>
    ⟨x.2, x.1.1.1, x.1.1.2, x.1.2.1, x.1.2.2⟩

end Placement

/-- The order of windows: by group, then by lower end. -/
def Slot.le (a b : Slot) : Bool :=
  decide (a.group < b.group ∨ a.group = b.group ∧ a.lower ≤ b.lower)

namespace Window

def slot (w : Window) : Slot := ⟨w.group, w.bounds.lower⟩

end Window

namespace OpenWindow

def slot (w : OpenWindow) : Slot := w.window.slot

/-- The window that a row opens. It decides the bounds and the label. -/
def start (label : Label) (p : Placement) : OpenWindow where
  window :=
    { group := p.group, bounds := p.bounds, label := label.instant p.bounds p.shifted,
      rows := [p.row], distinct := 1 }
  lastSeen := p.instant

/-- The window with another row, whose instant counts unless it has just been seen. -/
def add (w : OpenWindow) (p : Placement) : OpenWindow where
  window :=
    { w.window with
      rows := w.window.rows ++ [p.row]
      distinct := if w.lastSeen = p.instant then w.window.distinct else w.window.distinct + 1 }
  lastSeen := p.instant

/-- Files a row under the window of its slot, or opens one for it. -/
def file (label : Label) (p : Placement) : List OpenWindow → List OpenWindow
  | [] => [start label p]
  | w :: others => if w.slot = p.slot then w.add p :: others else w :: file label p others

/-- Files rows in turn. -/
def fileAll (label : Label) (placements : List Placement) : List OpenWindow :=
  placements.foldl (fun windows p => file label p windows) []

end OpenWindow

/-- The windows that rows are placed in. -/
def Window.list (label : Label) (placements : List Placement) : List Window :=
  ((OpenWindow.fileAll label placements).map (·.window)).mergeSort fun v w => v.slot.le w.slot

namespace Assignment

/-- The key of a window. -/
def keyOf (a : Assignment) (w : Window) : WindowKey := ⟨a.groups.getD w.group [], w.bounds.lower⟩

/-- What is noted of an assignment of some rows. -/
def note (spec : WindowSpec) (rows : Nat) (a : Assignment) : Log.Event :=
  .note .debug (s!"assigned {rows} rows to {a.windows.length} windows "
    ++ s!"across {a.groups.length} groups (every={spec.every.text})")

/-- The assignment of rows with these keys, windows and instants. -/
def ofRows (label : Label) (keys : List (List Cell)) (bounds : List Bounds)
    (shifted instants : List Int) : Assignment :=
  let grouping := Grouping.extend [] keys
  ⟨Window.list label (Placement.list grouping.rows bounds shifted instants), grouping.keys⟩

/-- The rows of a table in their windows. -/
def plan (spec : WindowSpec) (t : Table) (axis : TimeAxis) : Except Error Assignment := do
  let columns ← t.groupColumns spec.groupBy
  let shifted ← spec.shifted axis
  let bounds ← spec.boundsFrom axis.zone none shifted
  return ofRows spec.label (t.groupKeys columns) bounds shifted axis.instants

end Assignment

/-- Puts the rows of a table into windows. -/
def WindowSpec.assign (spec : WindowSpec) (t : Table) (axis : TimeAxis) :
    Journaled Error Assignment :=
  .noting (Assignment.plan spec t axis) (Assignment.note spec t.height)

end Cadence
