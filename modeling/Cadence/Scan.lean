import Cadence.Text.Alphabetic
import Cadence.Text.Basic

/-! # Runs of characters

The lexical pieces of durations and patterns. Each scanner takes the longest
run of its class from the front of a text and returns it with what is left. -/

namespace Cadence.Scan

open Text

/-- The longest nonempty front run of characters of a class, and the rest. -/
def run? (p : Char → Bool) (cs : List Char) : Option (List Char × List Char) :=
  if (cs.takeWhile p).isEmpty then none else some (cs.takeWhile p, cs.dropWhile p)

theorem run?_eq_some_iff {p : Char → Bool} {cs found rest : List Char} :
    run? p cs = some (found, rest) ↔
      found ≠ [] ∧ cs.takeWhile p = found ∧ cs.dropWhile p = rest := by
  unfold run?
  split
  · next h =>
      simp only [reduceCtorEq, false_iff, not_and]
      rintro hne rfl
      exact absurd (List.isEmpty_iff.1 h) hne
  · next h =>
      simp only [Option.some.injEq, Prod.mk.injEq]
      constructor
      · rintro ⟨rfl, rfl⟩
        exact ⟨by simpa using h, rfl, rfl⟩
      · rintro ⟨-, rfl, rfl⟩
        exact ⟨rfl, rfl⟩

/-- A run is cut off the front: the two parts make up the text. -/
theorem append_of_run? {p : Char → Bool} {cs found rest : List Char}
    (h : run? p cs = some (found, rest)) : found ++ rest = cs := by
  obtain ⟨-, rfl, rfl⟩ := run?_eq_some_iff.1 h
  exact List.takeWhile_append_dropWhile

/-- A run holds characters of its class only, and the rest begins with no such one. -/
theorem class_of_run? {p : Char → Bool} {cs found rest : List Char}
    (h : run? p cs = some (found, rest)) :
    found ≠ [] ∧ (∀ c ∈ found, p c = true) ∧ ∀ c, rest.head? = some c → p c = false := by
  obtain ⟨hne, rfl, rfl⟩ := run?_eq_some_iff.1 h
  refine ⟨hne, List.all_eq_true.1 List.all_takeWhile, ?_⟩
  intro c hc
  have hnot := List.head?_dropWhile_not p cs
  rw [hc] at hnot
  exact hnot

/-- A run that the text behind it does not go on with is found. -/
theorem run?_append {p : Char → Bool} {found rest : List Char} (hne : found ≠ [])
    (hfound : ∀ c ∈ found, p c = true) (hrest : ∀ c, rest.head? = some c → p c = false) :
    run? p (found ++ rest) = some (found, rest) := by
  have htake : rest.takeWhile p = [] := by
    cases rest with
    | nil => rfl
    | cons c rest => simp [hrest c rfl]
  have hdrop : rest.dropWhile p = rest := by
    cases rest with
    | nil => rfl
    | cons c rest => simp [hrest c rfl]
  rw [run?_eq_some_iff, List.takeWhile_append_of_pos hfound, List.dropWhile_append_of_pos hfound,
    htake, hdrop, List.append_nil]
  exact ⟨hne, rfl, rfl⟩

theorem length_lt_of_run? {p : Char → Bool} {cs found rest : List Char}
    (h : run? p cs = some (found, rest)) : rest.length < cs.length := by
  have hne := (run?_eq_some_iff.1 h).1
  have hlen := congrArg List.length (append_of_run? h)
  have hpos := List.length_pos_iff.2 hne
  rw [List.length_append] at hlen
  omega

/-- ASCII digits. -/
def digits? (cs : List Char) : Option (List Char × List Char) := run? Char.isDigit cs

/-- Letters of any script, so that `µs` is one word. -/
def letters? (cs : List Char) : Option (List Char × List Char) := run? isAlphabetic cs

/-- A character that a duration may hold. -/
def isWordChar (c : Char) : Bool := c.isDigit || isAlphabetic c

/-- Digits and letters, up to the next operator, separator or blank. -/
def word? (cs : List Char) : Option (List Char × List Char) := run? isWordChar cs

/-- What is left behind the spacing at the front. -/
def skipSpacing (cs : List Char) : List Char := cs.dropWhile isSpacing

theorem length_skipSpacing_le (cs : List Char) : (skipSpacing cs).length ≤ cs.length :=
  (List.dropWhile_sublist _).length_le

end Cadence.Scan
