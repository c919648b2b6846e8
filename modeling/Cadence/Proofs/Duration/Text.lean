import Cadence.Duration.Parser
import Cadence.Proofs.Duration.Span
import Cadence.Proofs.Text.Digits

/-!
# Written durations

A duration is written as its parts laid end to end, each a number that fits a word and one of
the spellings of a unit. Digits and letters are apart, so a text falls into numbers and words in
one way only, and no two durations are written alike. Reading accepts what is written and
nothing else.
-/

namespace Cadence

open Text

/-! ### Letters -/

theorem Spelling.chars_ne_nil (x : Spelling) : x.chars ≠ [] := by
  cases x <;> decide

theorem Spelling.isAlphabetic_chars (x : Spelling) : ∀ c ∈ x.chars, isAlphabetic c = true := by
  apply List.all_eq_true.mp
  cases x <;> decide

namespace Duration

/-! ### Numbers and words -/

theorem isAlphabetic_eq_false_of_isDigit {c : Char} (h : c.isDigit = true) :
    isAlphabetic c = false := by
  obtain ⟨d, hd, rfl⟩ := exists_digitChar h
  decide +revert

/-- Digits, and letters behind them. -/
structure IsPair (p : List Char × List Char) : Prop where
  digits_ne_nil : p.1 ≠ []
  isDigit : ∀ c ∈ p.1, c.isDigit = true
  letters_ne_nil : p.2 ≠ []
  isAlphabetic : ∀ c ∈ p.2, isAlphabetic c = true

/-- A text cut into pairs that are laid end to end. -/
def Alternates (pairs : List (List Char × List Char)) (cs : List Char) : Prop :=
  (∀ p ∈ pairs, IsPair p) ∧ (pairs.flatMap fun p => p.1 ++ p.2) = cs

/-- The first pair, and then those of the rest. -/
theorem pairs?_eq (cs : List Char) :
    pairs? cs = (Scan.digits? cs).bind fun first =>
      (Scan.letters? first.2).bind fun second =>
        if second.2.isEmpty then some [(first.1, second.1)]
        else (pairs? second.2).map ((first.1, second.1) :: ·) := by
  rw [pairs?]
  split
  · next hdigits => simp [hdigits]
  · next hdigits =>
      split
      · next hletters => simp [hdigits, hletters]
      · next hletters => simp [hdigits, hletters]

theorem isPair_of_reads {cs afterDigits rest digits letters : List Char}
    (hdigits : Scan.digits? cs = some (digits, afterDigits))
    (hletters : Scan.letters? afterDigits = some (letters, rest)) :
    IsPair (digits, letters) ∧ digits ++ letters ++ rest = cs := by
  obtain ⟨hdigitsNe, hisDigit, -⟩ := Scan.class_of_run? hdigits
  obtain ⟨hlettersNe, hisAlphabetic, -⟩ := Scan.class_of_run? hletters
  refine ⟨⟨hdigitsNe, hisDigit, hlettersNe, hisAlphabetic⟩, ?_⟩
  rw [← Scan.append_of_run? hdigits, ← Scan.append_of_run? hletters, List.append_assoc]

theorem alternates_of_pairs? {cs : List Char} {pairs : List (List Char × List Char)}
    (h : pairs? cs = some pairs) : pairs ≠ [] ∧ Alternates pairs cs := by
  fun_induction pairs? cs generalizing pairs with
  | case1 | case2 => cases h
  | case3 cs digits afterDigits hdigits _ letters rest hletters _ hrest =>
      cases h
      obtain ⟨hpair, htext⟩ := isPair_of_reads hdigits hletters
      rw [List.isEmpty_iff.mp hrest, List.append_nil] at htext
      refine ⟨List.cons_ne_nil _ _, ?_, ?_⟩
      · simpa using hpair
      · simpa using htext
  | case4 cs digits afterDigits hdigits _ letters rest hletters _ _ ih =>
      obtain ⟨others, hothers, rfl⟩ := Option.map_eq_some_iff.mp h
      obtain ⟨hpair, htext⟩ := isPair_of_reads hdigits hletters
      obtain ⟨-, hpairs, hrest⟩ := ih hothers
      refine ⟨List.cons_ne_nil _ _, ?_, ?_⟩
      · exact List.forall_mem_cons.mpr ⟨hpair, hpairs⟩
      · rw [List.flatMap_cons, hrest, htext]

namespace IsPair

variable {p : List Char × List Char}

/-- A pair begins with a digit. -/
theorem exists_head (h : IsPair p) (rest : List Char) :
    ∃ c, (p.1 ++ p.2 ++ rest).head? = some c ∧ c.isDigit = true := by
  obtain ⟨digits, letters⟩ := p
  cases digits with
  | nil => exact absurd rfl h.digits_ne_nil
  | cons c digits => exact ⟨c, rfl, h.isDigit c List.mem_cons_self⟩

/-- The number of a pair ends where its letters begin. -/
theorem digits?_append (h : IsPair p) (rest : List Char) :
    Scan.digits? (p.1 ++ p.2 ++ rest) = some (p.1, p.2 ++ rest) := by
  rw [List.append_assoc]
  apply Scan.run?_append h.digits_ne_nil h.isDigit
  intro c hc
  rw [List.head?_append, Option.or_of_isSome (List.isSome_head?.mpr h.letters_ne_nil)] at hc
  apply Bool.eq_false_iff.mpr
  intro hdigit
  have hletter := h.isAlphabetic c (List.mem_of_mem_head? hc)
  rw [isAlphabetic_eq_false_of_isDigit hdigit] at hletter
  cases hletter

/-- The letters of a pair end where a number begins. -/
theorem letters?_append (h : IsPair p) {rest : List Char}
    (hrest : ∀ c, rest.head? = some c → c.isDigit = true) :
    Scan.letters? (p.2 ++ rest) = some (p.2, rest) :=
  Scan.run?_append h.letters_ne_nil h.isAlphabetic fun c hc =>
    isAlphabetic_eq_false_of_isDigit (hrest c hc)

end IsPair

/-- What is laid end to end is cut apart again. -/
theorem pairs?_of_alternates {pairs : List (List Char × List Char)} {cs : List Char}
    (hne : pairs ≠ []) (h : Alternates pairs cs) : pairs? cs = some pairs := by
  obtain ⟨hpairs, rfl⟩ := h
  induction pairs with
  | nil => exact absurd rfl hne
  | cons p others ih =>
      obtain ⟨hpair, hothers⟩ := List.forall_mem_cons.mp hpairs
      rw [List.flatMap_cons, pairs?_eq, hpair.digits?_append, Option.bind_some]
      cases others with
      | nil =>
          have hletters := hpair.letters?_append fun c (hc : [].head? = some c) => nomatch hc
          rw [List.flatMap_nil, hletters]
          rfl
      | cons next others =>
          obtain ⟨c, hhead, hdigit⟩ := (hothers next List.mem_cons_self).exists_head
            (others.flatMap fun p => p.1 ++ p.2)
          have hrest : ∀ c', ((next :: others).flatMap fun p => p.1 ++ p.2).head? = some c' →
              c'.isDigit = true := by
            intro c' hc'
            rw [List.flatMap_cons, hhead] at hc'
            exact Option.some.inj hc' ▸ hdigit
          have hmore : ((next :: others).flatMap fun p => p.1 ++ p.2).isEmpty = false := by
            rw [List.flatMap_cons, List.isEmpty_eq_false_iff]
            exact List.ne_nil_of_mem (List.mem_of_mem_head? hhead)
          rw [hpair.letters?_append hrest, Option.bind_some, hmore,
            ih (List.cons_ne_nil _ _) hothers]
          rfl

theorem pairs?_eq_some_iff {cs : List Char} {pairs : List (List Char × List Char)} :
    pairs? cs = some pairs ↔ pairs ≠ [] ∧ Alternates pairs cs :=
  ⟨alternates_of_pairs?, fun h => pairs?_of_alternates h.1 h.2⟩

/-! ### Parts -/

/-- The text of a part: its number without leading zeros, then its unit. -/
def Part.IsText (p : Part) (cs : List Char) : Prop :=
  ∃ digits, Numeral digits p.count ∧ cs = digits ++ p.spelling.chars

theorem Part.isText_iff {p : Part} {cs : List Char} : p.IsText cs ↔ cs = p.chars := by
  simp only [IsText, numeral_iff, exists_eq_left, chars]

/-- The text of a duration: the texts of its parts, laid end to end. -/
def IsText (d : Duration) (cs : List Char) : Prop :=
  ∃ texts, d.parts.Forall₂ Part.IsText texts ∧ texts.flatten = cs

theorem forall₂_isText_iff {parts : List Part} {texts : List (List Char)} :
    parts.Forall₂ Part.IsText texts ↔ texts = parts.map Part.chars := by
  induction parts generalizing texts with
  | nil => simp
  | cons p parts ih => simp [List.forall₂_cons_left_iff, ih, Part.isText_iff]

theorem isText_iff {d : Duration} {cs : List Char} : d.IsText cs ↔ cs = d.chars := by
  simp only [IsText, forall₂_isText_iff, exists_eq_left, chars, List.flatMap_def]
  exact eq_comm

/-- The number and the word of a part. -/
def Part.pair (p : Part) : List Char × List Char := (Nat.toDigits 10 p.count, p.spelling.chars)

theorem Part.isPair_pair (p : Part) : IsPair p.pair := by
  refine ⟨Nat.toDigits_ne_nil, ?_, p.spelling.chars_ne_nil, p.spelling.isAlphabetic_chars⟩
  intro c hc
  exact Nat.isDigit_of_mem_toDigits (by omega) (by omega) hc

/-- A part is read from the digits of its number and the letters of its unit. -/
theorem Part.ofPair_eq_ok_iff {digits letters : List Char} {p : Part}
    (hpair : IsPair (digits, letters)) :
    ofPair digits letters = .ok p ↔ Numeral digits p.count ∧ letters = p.spelling.chars := by
  unfold ofPair
  constructor
  · intro h
    split at h
    · cases h
    · next hleading =>
        split at h
        · next hfits =>
            split at h
            · next spelling hspelling =>
                cases h
                refine ⟨⟨hpair.digits_ne_nil, hpair.isDigit, ?_, rfl⟩,
                  Spelling.eq_chars_of_ofChars? hspelling⟩
                -- A zero in front of nothing is the numeral of zero.
                intro hhead
                obtain ⟨rest, rfl⟩ := List.head?_eq_some_iff.mp hhead
                cases rest with
                | nil => rfl
                | cons c rest => exact absurd ⟨by simp, hhead⟩ hleading
            · cases h
        · cases h
  · rintro ⟨hnumeral, rfl⟩
    have hleading : ¬(1 < digits.length ∧ digits.head? = some '0') := by
      rintro ⟨hlong, hhead⟩
      rw [hnumeral.eq_zero hhead] at hlong
      exact absurd hlong (by decide)
    have hvalue := hnumeral.value
    have hfits : Nat.ofDigitChars 10 digits 0 < wordSize := hvalue.symm ▸ p.count_lt
    rw [if_neg hleading, dif_pos hfits, Spelling.ofChars?_chars]
    obtain ⟨count, spelling, hcount⟩ := p
    cases hvalue
    rfl

/-! ### Durations -/

theorem alternates_pairs (d : Duration) : Alternates (d.parts.map Part.pair) d.chars := by
  refine ⟨?_, ?_⟩
  · intro pair hpair
    obtain ⟨p, -, rfl⟩ := List.mem_map.mp hpair
    exact p.isPair_pair
  · rw [List.flatMap_map]
    rfl

theorem mapM_ofPair_iff {pairs : List (List Char × List Char)} {parts : List Part}
    (hpairs : ∀ p ∈ pairs, IsPair p) :
    (pairs.mapM fun p => Part.ofPair p.1 p.2) = .ok parts ↔ pairs = parts.map Part.pair := by
  rw [mapM_eq_ok_iff]
  induction pairs generalizing parts with
  | nil => cases parts <;> simp
  | cons pair others ih =>
      obtain ⟨digits, letters⟩ := pair
      obtain ⟨hpair, hothers⟩ := List.forall_mem_cons.mp hpairs
      cases parts with
      | nil => simp
      | cons p parts =>
          rw [List.forall₂_cons, Part.ofPair_eq_ok_iff hpair, numeral_iff, ih hothers,
            List.map_cons, List.cons.injEq, Part.pair, Prod.mk.injEq]

/-- The text of a duration begins with a digit. -/
theorem exists_head_chars {d : Duration} (h : d.parts ≠ []) :
    ∃ c, d.chars.head? = some c ∧ c.isDigit = true := by
  obtain ⟨p, parts, hparts⟩ := List.exists_cons_of_ne_nil h
  obtain ⟨c, hhead, hdigit⟩ := p.isPair_pair.exists_head (parts.flatMap Part.chars)
  refine ⟨c, ?_, hdigit⟩
  rw [chars, hparts, List.flatMap_cons]
  exact hhead

/-- The text of a duration ends with a letter. -/
theorem exists_getLast_chars {d : Duration} (h : d.parts ≠ []) :
    ∃ c, d.chars.getLast? = some c ∧ isAlphabetic c = true := by
  rcases List.eq_nil_or_concat d.parts with hparts | ⟨parts, p, hparts⟩
  · exact absurd hparts h
  · have hletters := p.spelling.chars_ne_nil
    refine ⟨p.spelling.chars.getLast hletters, ?_,
      p.spelling.isAlphabetic_chars _ (List.getLast_mem hletters)⟩
    rw [chars, hparts, List.concat_eq_append, List.flatMap_append, List.flatMap_singleton,
      Part.chars, List.getLast?_append, List.getLast?_append,
      List.getLast?_eq_some_getLast hletters]
    rfl

/-- Reading takes apart what is written, and nothing else. -/
theorem ofChars_eq_ok_iff {cs : List Char} {d : Duration} :
    ofChars cs = .ok d ↔ d.parts ≠ [] ∧ cs = d.chars := by
  constructor
  · intro h
    unfold ofChars at h
    split_ifs at h
    split at h
    · cases h
    · next pairs hpairs =>
        obtain ⟨parts, hparts, h⟩ := bind_eq_ok_iff.mp h
        cases h
        obtain ⟨hne, hall, rfl⟩ := pairs?_eq_some_iff.mp hpairs
        obtain rfl := (mapM_ofPair_iff hall).mp hparts
        exact ⟨fun hnil => hne (List.map_eq_nil_iff.mpr hnil), (alternates_pairs ⟨parts⟩).2⟩
  · rintro ⟨hne, rfl⟩
    obtain ⟨first, hfirst, hdigit⟩ := exists_head_chars hne
    obtain ⟨last, hlast, hletter⟩ := exists_getLast_chars hne
    have hempty : d.chars.isEmpty = false :=
      List.isEmpty_eq_false_iff.mpr (List.ne_nil_of_mem (List.mem_of_mem_head? hfirst))
    have hlastDigit : last.isDigit = false := by
      apply Bool.eq_false_iff.mpr
      intro hlastDigit
      rw [isAlphabetic_eq_false_of_isDigit hlastDigit] at hletter
      cases hletter
    have hpairs : pairs? d.chars = some (d.parts.map Part.pair) :=
      pairs?_of_alternates (fun hnil => hne (List.map_eq_nil_iff.mp hnil)) d.alternates_pairs
    have hparts := (mapM_ofPair_iff d.alternates_pairs.1).mpr rfl
    unfold ofChars
    rw [hempty, hfirst, hlast, Option.any_some, Option.any_some,
      isAlphabetic_eq_false_of_isDigit hdigit, hlastDigit, hpairs]
    exact bind_eq_ok_iff.mpr ⟨d.parts, hparts, rfl⟩

/-- Scaling keeps the parts, and only their numbers change. -/
theorem length_parts_of_scale {d e : Duration} {factor : Nat} (h : d.scale factor = .ok e) :
    e.parts.length = d.parts.length :=
  (scale_eq_ok_iff.mp h).length_eq.symm

theorem parse_eq_ok_iff {s : String} {d : Duration} :
    parse s = .ok d ↔ d.parts ≠ [] ∧ s = d.text := by
  rw [parse, mapError_eq_ok_iff, ofChars_eq_ok_iff, text, ← String.toList_inj,
    String.toList_ofList]

theorem parse_ofList_eq_ok_iff {cs : List Char} {d : Duration} :
    parse (String.ofList cs) = .ok d ↔ d.parts ≠ [] ∧ d.IsText cs := by
  rw [parse, mapError_eq_ok_iff, ofChars_eq_ok_iff, isText_iff, String.toList_ofList]

/-- A text that is not read as a duration is malformed. -/
theorem parse_eq_error {s : String} (h : ∀ d, parse s ≠ .ok d) :
    ∃ fault, parse s = .error (.malformedDuration s fault) := by
  unfold parse at h ⊢
  cases hread : ofChars s.toList with
  | ok d => exact absurd (by rw [hread]; rfl) (h d)
  | error fault => exact ⟨fault, rfl⟩

/-- Durations are read from their texts, which are parts laid end to end, and from no others.
What is read is written as it was, and what is written is read back, scaled or not. -/
theorem parse_written :
    (∀ s d, parse s = .ok d ↔ d.parts ≠ [] ∧ d.IsText s.toList) ∧
    (∀ s d, parse s = .ok d → d.text = s) ∧
    (∀ d : Duration, d.parts ≠ [] → parse d.text = .ok d) ∧
    (∀ (d e : Duration) factor, d.parts ≠ [] → d.scale factor = .ok e → parse e.text = .ok e) ∧
    ∀ s, (¬∃ d : Duration, d.parts ≠ [] ∧ d.IsText s.toList) →
      ∃ fault, parse s = .error (.malformedDuration s fault) := by
  have hgrammar : ∀ s d, parse s = .ok d ↔ d.parts ≠ [] ∧ d.IsText s.toList := by
    intro s d
    rw [← parse_ofList_eq_ok_iff, String.ofList_toList]
  have hback : ∀ d : Duration, d.parts ≠ [] → parse d.text = .ok d :=
    fun d hparts => parse_eq_ok_iff.mpr ⟨hparts, rfl⟩
  refine ⟨hgrammar, fun s d h => (parse_eq_ok_iff.mp h).2.symm, hback, ?_, ?_⟩
  · intro d e factor hparts hscale
    apply hback
    intro hnil
    have hlength := length_parts_of_scale hscale
    rw [hnil] at hlength
    exact hparts (List.length_eq_zero_iff.mp hlength.symm)
  · intro s hnone
    exact parse_eq_error fun d hread => hnone ⟨d, (hgrammar s d).mp hread⟩

/-- Both spellings of microseconds are read back as they were written. -/
theorem parse_written_microseconds :
    let d : Duration := ⟨[⟨90, .microSign, by decide⟩, ⟨5, .us, by decide⟩]⟩
    d.parts ≠ [] ∧ d.text = "90µs5us" ∧ parse d.text = .ok d :=
  ⟨by decide, by decide, parse_written.2.2.1 _ (by decide)⟩

end Duration

end Cadence
