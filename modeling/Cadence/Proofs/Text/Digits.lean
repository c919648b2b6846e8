import Mathlib.Data.List.Induction

/-!
# Decimal numerals

A number has one numeral without leading zeros, the one that is written for it. So a run of
digits that does not begin with a zero, or that is a single zero, is the numeral of its value.
-/

namespace Cadence.Text

/-- The digits of a number, without leading zeros. -/
structure Numeral (digits : List Char) (n : Nat) : Prop where
  ne_nil : digits ≠ []
  isDigit : ∀ c ∈ digits, c.isDigit = true
  eq_zero : digits.head? = some '0' → digits = ['0']
  value : Nat.ofDigitChars 10 digits 0 = n

theorem exists_digitChar {c : Char} (h : c.isDigit = true) : ∃ d < 10, Nat.digitChar d = c := by
  rw [Char.isDigit_iff_toNat] at h
  have hbounds : 48 ≤ c.toNat ∧ c.toNat ≤ 57 := h
  refine ⟨c.toNat - 48, by omega, ?_⟩
  apply Char.toNat_inj.mp
  rw [Nat.toNat_digitChar_of_lt_ten (by omega)]
  omega

/-- A digit written behind others adds to ten times their value. -/
theorem ofDigitChars_concat (digits : List Char) {d : Nat} (h : d < 10) :
    Nat.ofDigitChars 10 (digits ++ [Nat.digitChar d]) 0 =
      10 * Nat.ofDigitChars 10 digits 0 + d := by
  rw [Nat.ofDigitChars_append, Nat.ofDigitChars_cons_digitChar_of_lt_ten h, Nat.ofDigitChars_nil]

/-- Digits without leading zeros are the ones that are written for their value. -/
theorem toDigits_ofDigitChars {digits : List Char} (hne : digits ≠ [])
    (hdigits : ∀ c ∈ digits, c.isDigit = true) (hzero : digits.head? = some '0' → digits = ['0']) :
    Nat.toDigits 10 (Nat.ofDigitChars 10 digits 0) = digits := by
  induction digits using List.reverseRecOn with
  | nil => exact absurd rfl hne
  | append_singleton front c ih =>
      obtain ⟨d, hd, rfl⟩ := exists_digitChar (hdigits c (by simp))
      rw [ofDigitChars_concat front hd]
      rcases eq_or_ne front [] with rfl | hfront
      · exact (congrArg _ (Nat.zero_add d)).trans (Nat.toDigits_of_lt_base hd)
      · -- Two digits or more: the first one is not zero, and neither is their value.
        have hfirst : front.head? ≠ some '0' := by
          intro hhead
          have hsingle : front ++ [Nat.digitChar d] = [] ++ ['0'] :=
            hzero (by rw [List.head?_append, hhead]; rfl)
          exact hfront (List.append_inj_left' hsingle rfl)
        have hread := ih hfront (fun c hc => hdigits c (List.mem_append_left _ hc))
          fun hhead => absurd hhead hfirst
        have hpos : 0 < Nat.ofDigitChars 10 front 0 := by
          rcases Nat.eq_zero_or_pos (Nat.ofDigitChars 10 front 0) with hvalue | hvalue
          · rw [hvalue, Nat.toDigits_zero] at hread
            exact absurd (congrArg List.head? hread.symm) hfirst
          · exact hvalue
        rw [← Nat.toDigits_append_toDigits (by omega) hpos hd, hread, Nat.toDigits_of_lt_base hd]

/-- Only the numeral of zero begins with a zero. -/
theorem eq_zero_of_head?_toDigits {n : Nat} (h : (Nat.toDigits 10 n).head? = some '0') :
    n = 0 := by
  induction n using Nat.strongRecOn with
  | ind n ih =>
      rcases Nat.lt_or_ge n 10 with hsmall | hlarge
      · rw [Nat.toDigits_of_lt_base hsmall] at h
        exact Nat.digitChar_eq_zero.mp (Option.some.inj h)
      · rw [Nat.toDigits_of_base_le (by omega) hlarge,
          List.head?_append, Option.or_of_isSome (List.isSome_head?.mpr Nat.toDigits_ne_nil)] at h
        have hquotient := ih (n / 10) (by omega) h
        omega

theorem numeral_iff {digits : List Char} {n : Nat} :
    Numeral digits n ↔ digits = Nat.toDigits 10 n := by
  constructor
  · rintro ⟨hne, hdigits, hzero, rfl⟩
    exact (toDigits_ofDigitChars hne hdigits hzero).symm
  · rintro rfl
    refine ⟨Nat.toDigits_ne_nil, ?_, ?_, Nat.ofDigitChars_ten_toDigits⟩
    · intro c hc
      exact Nat.isDigit_of_mem_toDigits (by omega) (by omega) hc
    · intro hhead
      rw [eq_zero_of_head?_toDigits hhead, Nat.toDigits_zero]

end Cadence.Text
