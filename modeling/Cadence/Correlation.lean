import Cadence.Choice
import Cadence.TimeAxis
import Std.Data.HashMap

/-! # Correlation

Two series are joined on their instants, and the correlation of the joined values
is computed. A set of tables is correlated pair by pair. -/

namespace Cadence

/-- Which cells of a square of pairs are visited. -/
inductive PairSelection
  | full
  /-- On and above the diagonal. -/
  | upper
  /-- On and below the diagonal. -/
  | lower
deriving DecidableEq, Repr

namespace PairSelection

def all : List PairSelection := [full, upper, lower]

def name : PairSelection → String
  | full => "full"
  | upper => "upper"
  | lower => "lower"

/-- The selection of a name. -/
def parse (s : String) : Except Error PairSelection :=
  (all.find? (·.name = s)).elim (.error (.configuration (.unknownPairSelection s))) .ok

/-- Whether the cell in row `i` and column `j` is selected. -/
def Selects (selection : PairSelection) (i j : Nat) : Prop :=
  match selection with
  | full => True
  | upper => i ≤ j
  | lower => j ≤ i

instance (selection : PairSelection) (i j : Nat) : Decidable (selection.Selects i j) := by
  unfold Selects
  cases selection <;> infer_instance

end PairSelection

/-- Two numbered items. -/
structure IndexedPair (α : Type) where
  i : Nat
  j : Nat
  left : α
  right : α
deriving DecidableEq, Repr

/-- The selected pairs of some items, row by row. -/
def indexedPairs {α : Type} (items : List α) (selection : PairSelection)
    (ignoreDiagonal : Bool) : List (IndexedPair α) :=
  items.zipIdx.flatMap fun a =>
    (items.zipIdx.filter fun b =>
      decide (selection.Selects a.2 b.2) && !(ignoreDiagonal && a.2 == b.2)).map fun b =>
        ⟨a.2, b.2, a.1, b.1⟩

/-- A value at an instant. -/
structure Sample where
  instant : Int
  value : Float

/-- The values of a table in the order of its rows. -/
structure Series where
  samples : List Sample

namespace Series

/-- The values of a column at their instants; missing values are left out. -/
def ofTable [Zone.Database] (t : Table) (timeColumn valueColumn : String) :
    Except Error Series := do
  let axis ← TimeAxis.ofTable t timeColumn
  match t.column? valueColumn with
  | none => throw (.data (.missingColumn .value valueColumn))
  | some column =>
      if column.type.isNumeric then
        return ⟨(axis.instants.zip column.cells).filterMap fun p => p.2.float?.map (⟨p.1, ·⟩)⟩
      else throw (.data (.notNumeric valueColumn column.type))

/-- The values of a series by their instants, each list in the order of the rows. -/
def byInstant (s : Series) : Std.HashMap Int (List Float) :=
  s.samples.foldr (fun x index => index.insert x.instant (x.value :: index.getD x.instant [])) ∅

/-- The index holds, under each instant, the values of that instant. -/
theorem getD_byInstant (s : Series) (instant : Int) :
    s.byInstant.getD instant [] =
      (s.samples.filter (·.instant = instant)).map (·.value) := by
  unfold byInstant
  induction s.samples with
  | nil => simp
  | cons x rest ih =>
      by_cases h : x.instant = instant
      · simp [h, ih]
      · simp [Std.HashMap.getD_insert, h, ih]

/-- The values of two series that share an instant: each value of the first with
all its partners in the second. -/
def join (a b : Series) : List (Float × Float) :=
  let index := b.byInstant
  a.samples.flatMap fun x => (index.getD x.instant []).map fun value => (x.value, value)

end Series

namespace Correlation

/-- The mean of some numbers, added up from the left. -/
def mean (numbers : List Float) : Float :=
  numbers.foldl (· + ·) (-0.0) / Float.ofNat numbers.length

/-- The sum of the products of two lists of numbers. -/
def product (a b : List Float) : Float := (a.zipWith (· * ·) b).foldl (· + ·) 0.0

/-- The correlation of pairs of values. Fewer than two pairs have none, nor has a
side that does not vary. -/
def ofPairs (pairs : List (Float × Float)) : Option Float :=
  if pairs.length < 2 then none
  else
    let a := pairs.map (·.1)
    let b := pairs.map (·.2)
    let meanA := mean a
    let meanB := mean b
    let deviationsA := a.map (· - meanA)
    let deviationsB := b.map (· - meanB)
    let varianceA := product deviationsA deviationsA
    let varianceB := product deviationsB deviationsB
    if varianceA == 0.0 || varianceB == 0.0 then none
    else some (product deviationsA deviationsB / (varianceA.sqrt * varianceB.sqrt))

/-- The names of some tables: the given ones, or numbered from one. -/
def names (count : Nat) (mapping : Option (List String)) : Except Error (List String) :=
  match mapping with
  | none => .ok ((List.range count).map fun i => s!"df_{i + 1}")
  | some names =>
      if names.length = count then .ok names
      else .error (.configuration (.mappingLength names.length count))

end Correlation

/-- The correlation of two numbered tables, if there is one. -/
structure Coefficient where
  i : Nat
  j : Nat
  value : Option Float

/-- The correlations of all pairs of tables, and the names of the tables. -/
structure Correlations where
  matrix : List Coefficient
  names : List String

namespace Correlations

/-- Correlates a column of each table with that of every table. -/
def ofTables [Zone.Database] (tables : List Table) (timeColumn valueColumn : String)
    (mapping : Option (List String)) : Except Error Correlations := do
  let names ← Correlation.names tables.length mapping
  let series ← tables.mapM fun t => Series.ofTable t timeColumn valueColumn
  let matrix := (indexedPairs series .full false).map fun p =>
    (⟨p.i, p.j, Correlation.ofPairs (p.left.join p.right)⟩ : Coefficient)
  return ⟨matrix, names⟩

end Correlations

end Cadence
