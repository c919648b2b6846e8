import Cadence.Pattern.Basic
import Cadence.Duration.Parser

/-! # Reading patterns

A pattern is read in two steps. The grammar cuts the text into clauses, each an
operator, a word and perhaps a star; then each clause is classified as a rule.
The shape of the whole pattern is settled before any duration is read. -/

namespace Cadence

open Scan

/-- A clause before its duration has been read. -/
structure Clause where
  comparison : Comparison
  word : List Char
  starred : Bool
deriving DecidableEq, Repr

/-- What stands at the front of a text where a clause may begin. -/
inductive Clause.Front
  /-- No operator. -/
  | absent
  /-- An operator without a duration. -/
  | broken
  | clause (c : Clause) (rest : List Char)

namespace Clause

/-- Takes a star off the front of a text. -/
def takeStar : List Char → Bool × List Char
  | '*' :: rest => (true, rest)
  | cs => (false, cs)

theorem length_takeStar_le (cs : List Char) : (takeStar cs).2.length ≤ cs.length := by
  unfold takeStar
  split <;> simp

/-- Looks for a clause at the front of a text. -/
def front (cs : List Char) : Front :=
  match Comparison.read? cs with
  | none => .absent
  | some (comparison, afterSign) =>
      match word? (skipSpacing afterSign) with
      | none => .broken
      | some (word, afterWord) =>
          .clause ⟨comparison, word, (takeStar afterWord).1⟩ (takeStar afterWord).2

theorem length_lt_of_front {cs rest : List Char} {c : Clause}
    (h : front cs = .clause c rest) : rest.length < cs.length := by
  unfold front at h
  split at h
  · simp at h
  · next comparison afterSign hsign =>
      split at h
      · simp at h
      · next word afterWord hword =>
          simp only [Front.clause.injEq] at h
          obtain ⟨-, rfl⟩ := h
          have h₁ := congrArg List.length (Comparison.chars_append_of_read? hsign)
          have h₂ := length_lt_of_run? hword
          have h₃ := length_skipSpacing_le afterSign
          have h₄ := length_takeStar_le afterWord
          rw [List.length_append] at h₁
          omega

/-- Takes a comma off the front of a text. -/
def skipComma : List Char → List Char
  | ',' :: rest => rest
  | cs => cs

theorem length_skipComma_le (cs : List Char) : (skipComma cs).length ≤ cs.length := by
  unfold skipComma
  split <;> simp

/-- Skips what may stand between two clauses: spacing and at most one comma. -/
def skipSeparator (cs : List Char) : List Char := skipSpacing (skipComma (skipSpacing cs))

theorem length_skipSeparator_le (cs : List Char) : (skipSeparator cs).length ≤ cs.length :=
  Nat.le_trans (length_skipSpacing_le _)
    (Nat.le_trans (length_skipComma_le _) (length_skipSpacing_le _))

/-- The clauses that follow a first one, up to the end of the text. -/
def following? (cs : List Char) : Option (List Clause) :=
  match h : front (skipSeparator cs) with
  | .clause c rest =>
      have := length_lt_of_front h
      have := length_skipSeparator_le cs
      (following? rest).map (c :: ·)
  | .broken => none
  | .absent => if (skipSpacing cs).isEmpty then some [] else none
termination_by cs.length

/-- The clauses of a whole pattern. -/
def ofChars? (cs : List Char) : Option (List Clause) :=
  match front (skipSpacing cs) with
  | .clause c rest => (following? rest).map (c :: ·)
  | _ => none

/-- Reads the duration of a clause. A starred clause counts the time past one
mark, so it needs a single unit shorter than a day and an operator that looks
past the mark. -/
def rule (source : String) (c : Clause) : Except LanguageError Rule := do
  let duration ← Duration.parse (String.ofList c.word)
  if c.starred then
    match duration.parts with
    | [part] =>
        if part.unit.isSubDay then
          if c.comparison = .gt ∨ c.comparison = .ge then
            return ⟨c.comparison, duration, .cascade⟩
          else throw (.unsupportedCascade source (.comparison c.comparison.symbol))
        else throw (.unsupportedCascade source (.calendarUnit part.spelling.symbol))
    | _ => throw (.unsupportedCascade source (.severalUnits duration.text))
  else return ⟨c.comparison, duration, .simple⟩

end Clause

/-- Reads a pattern. -/
def Pattern.parse (source : String) : Except LanguageError Pattern := do
  match Clause.ofChars? source.toList with
  | none => throw (.malformedPattern source .grammar)
  | some clauses =>
      if maxClauses < clauses.length then
        throw (.malformedPattern source (.clauseCount clauses.length))
      let rules ← clauses.mapM (Clause.rule source)
      return ⟨source, rules⟩

end Cadence
