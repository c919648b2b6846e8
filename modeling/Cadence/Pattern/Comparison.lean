/-! # Comparisons

The six comparisons of a clause, how they are written and what they say. -/

namespace Cadence

/-- A comparison of a field with a number. -/
inductive Comparison
  | eq
  | ne
  | lt
  | le
  | gt
  | ge
deriving DecidableEq, Repr

namespace Comparison

/-- The sign of a comparison. -/
def chars : Comparison → List Char
  | eq => ['=']
  | ne => ['!', '=']
  | lt => ['<']
  | le => ['<', '=']
  | gt => ['>']
  | ge => ['>', '=']

def symbol (op : Comparison) : String := String.ofList op.chars

/-- What the comparison says of two numbers. -/
def Holds : Comparison → Int → Int → Prop
  | eq, a, b => a = b
  | ne, a, b => a ≠ b
  | lt, a, b => a < b
  | le, a, b => a ≤ b
  | gt, a, b => b < a
  | ge, a, b => b ≤ a

instance (op : Comparison) (a b : Int) : Decidable (op.Holds a b) := by
  cases op <;> unfold Holds <;> infer_instance

/-- Reads the comparison at the front of a text, the longer signs first. -/
def read? : List Char → Option (Comparison × List Char)
  | '!' :: '=' :: rest => some (ne, rest)
  | '<' :: '=' :: rest => some (le, rest)
  | '>' :: '=' :: rest => some (ge, rest)
  | '=' :: rest => some (eq, rest)
  | '<' :: rest => some (lt, rest)
  | '>' :: rest => some (gt, rest)
  | _ => none

/-- What was read is the sign, cut off the front. -/
theorem chars_append_of_read? {cs rest : List Char} {op : Comparison}
    (h : read? cs = some (op, rest)) : op.chars ++ rest = cs := by
  unfold read? at h
  split at h <;> simp only [Option.some.injEq, Prod.mk.injEq, reduceCtorEq] at h
  all_goals obtain ⟨rfl, rfl⟩ := h; rfl

/-- The sign with the longer continuation is read first: a sign is read back
when no `=` follows it. -/
theorem read?_chars_append (op : Comparison) {rest : List Char}
    (h : rest.head? ≠ some '=') : read? (op.chars ++ rest) = some (op, rest) := by
  cases op <;> cases rest with
  | nil => rfl
  | cons c r =>
      have hc : c ≠ '=' := by simpa using h
      simp [chars, read?, hc]

/-- The comparison named by a sign. -/
def ofSymbol? (s : String) : Option Comparison :=
  match read? s.toList with
  | some (op, []) => some op
  | _ => none

end Comparison

end Cadence
