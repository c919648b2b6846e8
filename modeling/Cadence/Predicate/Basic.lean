import Cadence.Pattern.Comparison
import Cadence.Predicate.Component

/-! # Predicates over readings

Boolean expressions over the fields of a reading, their meaning and their text.
An empty conjunction holds and an empty disjunction does not. -/

namespace Cadence

/-- A Boolean expression over calendar and clock fields. -/
inductive Predicate
  | literal (b : Bool)
  | compare (component : Component) (comparison : Comparison) (value : Int)
  | conj (operands : List Predicate)
  | disj (operands : List Predicate)
  | negation (operand : Predicate)
deriving Repr

namespace Predicate

/-- Conjunction; a single operand stands for itself. -/
def allOf : List Predicate → Predicate
  | [p] => p
  | ps => conj ps

/-- Disjunction; a single operand stands for itself. -/
def anyOf : List Predicate → Predicate
  | [p] => p
  | ps => disj ps

mutual

/-- The meaning of a predicate at a reading. -/
def eval (r : Reading) : Predicate → Bool
  | literal b => b
  | compare component comparison value => decide (comparison.Holds (component.value r) value)
  | conj ps => evalAll r ps
  | disj ps => evalAny r ps
  | negation p => !p.eval r

def evalAll (r : Reading) : List Predicate → Bool
  | [] => true
  | p :: ps => p.eval r && evalAll r ps

def evalAny (r : Reading) : List Predicate → Bool
  | [] => false
  | p :: ps => p.eval r || evalAny r ps

end

mutual

/-- The text of a predicate: conjunctions and disjunctions stand between
parentheses. -/
def text : Predicate → String
  | literal b => if b then "true" else "false"
  | compare component comparison value =>
      s!"{component.name} {comparison.symbol} {value}"
  | conj ps => "(" ++ joined " AND " ps ++ ")"
  | disj ps => "(" ++ joined " OR " ps ++ ")"
  | negation p => "NOT " ++ p.text

def joined (separator : String) : List Predicate → String
  | [] => ""
  | [p] => p.text
  | p :: q :: ps => p.text ++ separator ++ joined separator (q :: ps)

end

/-! ### Meaning of compound predicates -/

variable {r : Reading}

@[simp] theorem evalAll_eq (ps : List Predicate) : evalAll r ps = ps.all (eval r) := by
  induction ps with
  | nil => rfl
  | cons p ps ih => simp [evalAll, ih]

@[simp] theorem evalAny_eq (ps : List Predicate) : evalAny r ps = ps.any (eval r) := by
  induction ps with
  | nil => rfl
  | cons p ps ih => simp [evalAny, ih]

@[simp] theorem eval_literal (b : Bool) : (literal b).eval r = b := by simp [eval]

@[simp] theorem eval_compare (component : Component) (op : Comparison) (value : Int) :
    (compare component op value).eval r = decide (op.Holds (component.value r) value) := by
  simp [eval]

@[simp] theorem eval_conj (ps : List Predicate) : (conj ps).eval r = ps.all (eval r) := by
  simp [eval]

@[simp] theorem eval_disj (ps : List Predicate) : (disj ps).eval r = ps.any (eval r) := by
  simp [eval]

@[simp] theorem eval_negation (p : Predicate) : (negation p).eval r = !p.eval r := by
  simp [eval]

@[simp] theorem eval_allOf (ps : List Predicate) : (allOf ps).eval r = ps.all (eval r) := by
  unfold allOf
  split <;> simp

@[simp] theorem eval_anyOf (ps : List Predicate) : (anyOf ps).eval r = ps.any (eval r) := by
  unfold anyOf
  split <;> simp

end Predicate

end Cadence
