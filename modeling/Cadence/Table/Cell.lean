import Cadence.Table.Type

/-! # Cells

The value of one row in one column. Floating-point numbers are held by their
binary64 bits, so that two cells are equal when they cannot be told apart:
zeros of either sign differ, and equal patterns of not-a-number are equal. -/

namespace Cadence

/-- The value of one row in one column. -/
inductive Cell
  | null
  /-- A number of an integer, date or timestamp column. -/
  | int (n : Int)
  /-- A floating-point number, by its bits. -/
  | float (bits : UInt64)
  | text (s : String)
  | flag (b : Bool)
  | list (items : List Cell)
deriving Inhabited, Repr

namespace Cell

mutual

/-- Equality of cells, by recursion on their parts. -/
def same : Cell → Cell → Bool
  | null, null => true
  | int m, int n => m == n
  | float x, float y => x == y
  | text s, text t => s == t
  | flag a, flag b => a == b
  | list xs, list ys => sameAll xs ys
  | _, _ => false

def sameAll : List Cell → List Cell → Bool
  | [], [] => true
  | x :: xs, y :: ys => x.same y && sameAll xs ys
  | _, _ => false

end

mutual

theorem eq_of_same : ∀ {x y : Cell}, x.same y = true → x = y
  | null, y, h => by cases y <;> simp_all [same]
  | int m, y, h => by cases y <;> simp_all [same]
  | float b, y, h => by cases y <;> simp_all [same]
  | text s, y, h => by cases y <;> simp_all [same]
  | flag b, y, h => by cases y <;> simp_all [same]
  | list xs, y, h => by
      cases y with
      | list ys => rw [eq_of_sameAll (by simpa [same] using h : sameAll xs ys = true)]
      | _ => simp [same] at h

theorem eq_of_sameAll : ∀ {xs ys : List Cell}, sameAll xs ys = true → xs = ys
  | [], ys, h => by cases ys <;> simp_all [sameAll]
  | x :: xs, ys, h => by
      cases ys with
      | nil => simp [sameAll] at h
      | cons y ys =>
          rw [sameAll, Bool.and_eq_true] at h
          rw [eq_of_same h.1, eq_of_sameAll h.2]

end

mutual

theorem same_self : ∀ x : Cell, x.same x = true
  | null => rfl
  | int m => by simp [same]
  | float b => by simp [same]
  | text s => by simp [same]
  | flag b => by simp [same]
  | list xs => by rw [same]; exact sameAll_self xs

theorem sameAll_self : ∀ xs : List Cell, sameAll xs xs = true
  | [] => rfl
  | x :: xs => by rw [sameAll, same_self x, sameAll_self xs]; rfl

end

instance : DecidableEq Cell := fun x y =>
  if h : x.same y = true then isTrue (eq_of_same h)
  else isFalse fun e => h (e ▸ same_self x)

mutual

/-- Whether a column of a type may hold the cell. -/
def fits : ColumnType → Cell → Bool
  | _, null => true
  | .integer _, int _ => true
  | .date32, int _ => true
  | .date64, int _ => true
  | .timestamp _ _, int _ => true
  | .float _, float _ => true
  | .text, text _ => true
  | .flag, flag _ => true
  | .list item, list items => fitsAll item items
  | _, _ => false

def fitsAll : ColumnType → List Cell → Bool
  | _, [] => true
  | type, x :: xs => x.fits type && fitsAll type xs

end

@[simp] theorem fits_null (type : ColumnType) : null.fits type = true := by
  cases type <;> rfl

@[simp] theorem fitsAll_eq (type : ColumnType) (items : List Cell) :
    fitsAll type items = items.all (fits type) := by
  induction items with
  | nil => rfl
  | cons x xs ih => simp [fitsAll, ih]

/-- The number in the slot of a cell; an empty slot holds zero. -/
def slot : Cell → Int
  | int n => n
  | _ => 0

/-- The number of an integer cell. -/
def int? : Cell → Option Int
  | int n => some n
  | _ => none

/-- The number of an integer or floating-point cell, as a binary64 number. -/
def float? : Cell → Option Float
  | int n => some (Float.ofInt n)
  | float bits => some (Float.ofBits bits)
  | _ => none

/-- A number, or null. -/
def ofInt? (n : Option Int) : Cell := n.elim null int

/-- The items of a list cell; a null has none. -/
def items : Cell → List Cell
  | list xs => xs
  | _ => []

end Cell

end Cadence
