import Cadence.Pattern.Parser
import Cadence.Proofs.Duration.Text
import Cadence.Proofs.Pattern.Meaning
import Mathlib.Data.List.TakeWhile

/-!
# Written patterns

A pattern is written as one clause or two, with spacing around them and at most one comma in
between. What may follow a clause is no part of a word and no star, so a clause ends in one
place only and a text falls into clauses in one way. Reading takes the clauses of such a text,
and then asks of each whether it makes a rule.
-/

namespace Cadence

open Text Scan

/-! ### Spacing -/

/-- Nothing but spacing. -/
def IsSpacing (cs : List Char) : Prop := ∀ c ∈ cs, isSpacing c = true

/-- What may stand between two clauses: spacing, with at most one comma in it. -/
def IsSeparator (cs : List Char) : Prop :=
  IsSpacing cs ∨
    ∃ before after, IsSpacing before ∧ IsSpacing after ∧ cs = before ++ ',' :: after

theorem isSpacing_nil : IsSpacing [] := nofun

theorem mem_of_isSpacing {c : Char} (h : isSpacing c = true) : c ∈ [' ', '\t', '\r', '\n'] := by
  simpa [isSpacing, or_assoc] using h

theorem IsSeparator.mem {cs : List Char} (h : IsSeparator cs) :
    ∀ c ∈ cs, c ∈ [' ', '\t', '\r', '\n', ','] := by
  intro c hc
  rcases h with hcs | ⟨before, after, hbefore, hafter, rfl⟩
  · exact List.mem_append_left [','] (mem_of_isSpacing (hcs c hc))
  · rcases List.mem_append.mp hc with hc | hc
    · exact List.mem_append_left [','] (mem_of_isSpacing (hbefore c hc))
    · rcases List.mem_cons.mp hc with rfl | hc
      · decide
      · exact List.mem_append_left [','] (mem_of_isSpacing (hafter c hc))

/-- The first character of a text is one of its first part, or else that of the second. -/
theorem head?_append_of {P : Char → Prop} {front rest : List Char} (hfront : ∀ c ∈ front, P c)
    (hrest : ∀ c, rest.head? = some c → P c) : ∀ c, (front ++ rest).head? = some c → P c := by
  intro c hc
  cases front with
  | nil => exact hrest c hc
  | cons x front =>
      cases hc
      exact hfront c List.mem_cons_self

theorem skipSpacing_append {gap rest : List Char} (hgap : IsSpacing gap)
    (hrest : ∀ c, rest.head? = some c → isSpacing c = false) :
    skipSpacing (gap ++ rest) = rest := by
  rw [skipSpacing, List.dropWhile_append_of_pos hgap]
  cases rest with
  | nil => rfl
  | cons c rest => simp [hrest c rfl]

theorem exists_skipSpacing (cs : List Char) :
    ∃ gap, IsSpacing gap ∧ gap ++ skipSpacing cs = cs :=
  ⟨cs.takeWhile isSpacing, List.all_eq_true.mp List.all_takeWhile,
    List.takeWhile_append_dropWhile⟩

theorem skipSpacing_eq_nil_iff {cs : List Char} : skipSpacing cs = [] ↔ IsSpacing cs :=
  List.dropWhile_eq_nil_iff

namespace Clause

theorem skipComma_of_head? {cs : List Char} (h : ∀ c, cs.head? = some c → c ≠ ',') :
    skipComma cs = cs := by
  cases cs with
  | nil => rfl
  | cons c cs => simp [skipComma, h c rfl]

/-- A separator is skipped as far as it goes. -/
theorem skipSeparator_append {sep rest : List Char} (hsep : IsSeparator sep)
    (hrest : ∀ c, rest.head? = some c → isSpacing c = false ∧ c ≠ ',') :
    skipSeparator (sep ++ rest) = rest := by
  have hspacing : ∀ c, rest.head? = some c → isSpacing c = false := fun c hc => (hrest c hc).1
  unfold skipSeparator
  rcases hsep with hsep | ⟨before, after, hbefore, hafter, rfl⟩
  · rw [skipSpacing_append hsep hspacing, skipComma_of_head? fun c hc => (hrest c hc).2]
    exact skipSpacing_append isSpacing_nil hspacing
  · have hcomma : ∀ c, (',' :: (after ++ rest)).head? = some c → isSpacing c = false := by
      intro c hc
      cases hc
      decide
    rw [List.append_assoc, List.cons_append, skipSpacing_append hbefore hcomma, skipComma,
      skipSpacing_append hafter hspacing]

theorem exists_skipSeparator (cs : List Char) :
    ∃ sep, IsSeparator sep ∧ sep ++ skipSeparator cs = cs := by
  obtain ⟨before, hbefore, htext⟩ := exists_skipSpacing cs
  unfold skipSeparator
  unfold skipComma
  split
  · next rest hcomma =>
      obtain ⟨after, hafter, hrest⟩ := exists_skipSpacing rest
      refine ⟨before ++ ',' :: after, .inr ⟨before, after, hbefore, hafter, rfl⟩, ?_⟩
      rw [List.append_assoc, List.cons_append, hrest, ← hcomma, htext]
  · obtain ⟨after, hafter, hrest⟩ := exists_skipSpacing (skipSpacing cs)
    refine ⟨before ++ after, .inl ?_, ?_⟩
    · exact List.forall_mem_append.mpr ⟨hbefore, hafter⟩
    · rw [List.append_assoc, hrest, htext]

/-! ### Clauses -/

/-- The star of a starred clause. -/
def star (c : Clause) : List Char := if c.starred then ['*'] else []

/-- The text of a clause: a sign, spacing, a word of digits and letters, and perhaps a star. -/
structure IsText (c : Clause) (cs : List Char) : Prop where
  word_ne_nil : c.word ≠ []
  isWordChar : ∀ x ∈ c.word, isWordChar x = true
  text : ∃ gap, IsSpacing gap ∧ cs = c.comparison.chars ++ (gap ++ (c.word ++ c.star))

/-- A text that does not go on with a clause before it. -/
def Ends (cs : List Char) : Prop := ∀ x, cs.head? = some x → Scan.isWordChar x = false ∧ x ≠ '*'

/-- What separates clauses, and what they begin with, ends the clause before. -/
theorem ends_of_mem : ∀ x ∈ [' ', '\t', '\r', '\n', ',', '=', '!', '<', '>'],
    Scan.isWordChar x = false ∧ x ≠ '*' := by
  intro x hx
  simp only [List.mem_cons, List.not_mem_nil, or_false] at hx
  rcases hx with rfl | rfl | rfl | rfl | rfl | rfl | rfl | rfl | rfl <;> decide

theorem exists_head_chars (op : Comparison) (rest : List Char) :
    ∃ x ∈ ['=', '!', '<', '>'], (op.chars ++ rest).head? = some x := by
  cases op <;> simp [Comparison.chars]

theorem eq_of_mem_star {c : Clause} {x : Char} (h : x ∈ c.star) : x = '*' := by
  unfold star at h
  split at h
  · exact List.mem_singleton.mp h
  · cases h

theorem takeStar_append (c : Clause) {rest : List Char} (h : Ends rest) :
    takeStar (c.star ++ rest) = (c.starred, rest) := by
  unfold star
  cases c.starred with
  | true => rfl
  | false =>
      cases rest with
      | nil => rfl
      | cons x rest => simp [takeStar, (h x rfl).2]

theorem exists_takeStar (cs : List Char) :
    (if (takeStar cs).1 then ['*'] else []) ++ (takeStar cs).2 = cs := by
  unfold takeStar
  split <;> rfl

namespace IsText

variable {c : Clause} {text : List Char}

/-- A clause begins with its sign. -/
theorem exists_head (h : c.IsText text) (rest : List Char) :
    ∃ x ∈ ['=', '!', '<', '>'], (text ++ rest).head? = some x := by
  obtain ⟨gap, -, rfl⟩ := h.text
  rw [List.append_assoc]
  exact exists_head_chars c.comparison _

/-- A clause may be written without spacing. -/
theorem compact (h : c.IsText text) : c.IsText (c.comparison.chars ++ (c.word ++ c.star)) :=
  ⟨h.word_ne_nil, h.isWordChar, [], isSpacing_nil, rfl⟩

/-- A clause is found, and what ends it is left. -/
theorem front_append (h : c.IsText text) {rest : List Char} (hrest : Ends rest) :
    front (text ++ rest) = .clause c rest := by
  obtain ⟨gap, hgap, rfl⟩ := h.text
  have hword : ∀ x, (c.word ++ (c.star ++ rest)).head? = some x → Scan.isWordChar x = true := by
    intro x hx
    rw [List.head?_append, Option.or_of_isSome (List.isSome_head?.mpr h.word_ne_nil)] at hx
    exact h.isWordChar x (List.mem_of_mem_head? hx)
  have hspacing : ∀ x, (c.word ++ (c.star ++ rest)).head? = some x → isSpacing x = false := by
    intro x hx
    apply Bool.eq_false_iff.mpr
    intro hspacing
    have hends := ends_of_mem x (List.mem_append_left _ (mem_of_isSpacing hspacing))
    rw [hword x hx] at hends
    cases hends.1
  -- The sign is read as it is written: neither spacing nor a word goes on with another `=`.
  have hsign : (gap ++ (c.word ++ (c.star ++ rest))).head? ≠ some '=' := by
    intro hhead
    refine head?_append_of (P := fun x => x ≠ '=') ?_ ?_ '=' hhead rfl
    · intro x hx heq
      subst heq
      exact absurd (hgap _ hx) (by decide)
    · intro x hx heq
      subst heq
      exact absurd (hword _ hx) (by decide)
  have hstar : ∀ x, (c.star ++ rest).head? = some x → Scan.isWordChar x = false := by
    refine head?_append_of ?_ fun x hx => (hrest x hx).1
    intro x hx
    rw [eq_of_mem_star hx]
    decide
  have hfound := Scan.run?_append h.word_ne_nil h.isWordChar hstar
  simp only [front, List.append_assoc, Comparison.read?_chars_append _ hsign,
    skipSpacing_append hgap hspacing, word?, hfound, takeStar_append c hrest]

end IsText

/-- What is found is a clause at the front of the text. -/
theorem exists_isText_of_front {cs rest : List Char} {c : Clause} (h : front cs = .clause c rest) :
    ∃ text, c.IsText text ∧ text ++ rest = cs := by
  unfold front at h
  split at h
  · cases h
  · next comparison afterSign hsign =>
      split at h
      · cases h
      · next word afterWord hword =>
          cases h
          obtain ⟨gap, hgap, hafterSign⟩ := exists_skipSpacing afterSign
          obtain ⟨hne, hisWordChar, -⟩ := Scan.class_of_run? hword
          have hstar := exists_takeStar afterWord
          refine ⟨_, ⟨hne, hisWordChar, gap, hgap, rfl⟩, ?_⟩
          rw [← Comparison.chars_append_of_read? hsign, ← hafterSign,
            ← Scan.append_of_run? hword]
          simp only [star, List.append_assoc, hstar]

/-! ### Clauses in a row -/

/-- The clauses behind a first one, each with a separator before it, and spacing at the end. -/
inductive Follow : List Clause → List Char → Prop
  | done {cs : List Char} : IsSpacing cs → Follow [] cs
  | next {sep text rest : List Char} {c : Clause} {clauses : List Clause} :
      IsSeparator sep → c.IsText text → Follow clauses rest →
        Follow (c :: clauses) (sep ++ (text ++ rest))

/-- The clauses of a text, with spacing around them. -/
def Outline (clauses : List Clause) (cs : List Char) : Prop :=
  ∃ lead text rest c others, IsSpacing lead ∧ IsText c text ∧ Follow others rest ∧
    clauses = c :: others ∧ cs = lead ++ (text ++ rest)

theorem Follow.ends {clauses : List Clause} {cs : List Char} (h : Follow clauses cs) :
    Ends cs := by
  cases h with
  | done hcs =>
      intro x hx
      exact ends_of_mem x
        (List.mem_append_left _ (mem_of_isSpacing (hcs x (List.mem_of_mem_head? hx))))
  | next hsep htext hrest =>
      apply head?_append_of
      · intro x hx
        exact ends_of_mem x (List.mem_append_left ['=', '!', '<', '>'] (hsep.mem x hx))
      · intro x hx
        obtain ⟨sign, hsign, hhead⟩ := htext.exists_head _
        rw [hhead] at hx
        cases hx
        exact ends_of_mem x (List.mem_append_right [' ', '\t', '\r', '\n', ','] hsign)

theorem Follow.exists_isText {clauses : List Clause} {cs : List Char} (h : Follow clauses cs) :
    ∀ c ∈ clauses, ∃ text, IsText c text := by
  induction h with
  | done => nofun
  | next _ htext _ ih => exact List.forall_mem_cons.mpr ⟨⟨_, htext⟩, ih⟩

theorem following?_eq (cs : List Char) :
    following? cs = match front (skipSeparator cs) with
      | .clause c rest => (following? rest).map (c :: ·)
      | .broken => none
      | .absent => if (skipSpacing cs).isEmpty then some [] else none := by
  rw [following?]
  split
  · next hfront => simp only [hfront]
  · next hfront => simp only [hfront]
  · next hfront => simp only [hfront]

theorem separated_of_mem : ∀ x ∈ ['=', '!', '<', '>'], isSpacing x = false ∧ x ≠ ',' := by
  intro x hx
  simp only [List.mem_cons, List.not_mem_nil, or_false] at hx
  rcases hx with rfl | rfl | rfl | rfl <;> decide

/-- A separator ends where a clause begins. -/
theorem IsText.head?_separated {c : Clause} {text : List Char} (h : c.IsText text)
    (rest : List Char) :
    ∀ x, (text ++ rest).head? = some x → isSpacing x = false ∧ x ≠ ',' := by
  intro x hx
  obtain ⟨sign, hsign, hhead⟩ := h.exists_head rest
  rw [hhead] at hx
  cases hx
  exact separated_of_mem x hsign

theorem following?_eq_some_iff {cs : List Char} {clauses : List Clause} :
    following? cs = some clauses ↔ Follow clauses cs := by
  constructor
  · intro h
    -- Reading ends in success in one way only: with spacing where no further sign is.
    fun_induction following? cs generalizing clauses with
    | case1 cs c rest hfront _ _ ih =>
        obtain ⟨others, hothers, rfl⟩ := Option.map_eq_some_iff.mp h
        obtain ⟨sep, hsep, hcs⟩ := exists_skipSeparator cs
        obtain ⟨text, htext, hrest⟩ := exists_isText_of_front hfront
        rw [← hcs, ← hrest]
        exact .next hsep htext (ih hothers)
    | case2 => cases h
    | case3 cs hfront hend =>
        cases h
        exact .done (skipSpacing_eq_nil_iff.mp (List.isEmpty_iff.mp hend))
    | case4 => cases h
  · intro h
    induction h with
    | done hcs =>
        have hend := skipSpacing_eq_nil_iff.mpr hcs
        rw [following?_eq, skipSeparator, hend]
        rfl
    | next hsep htext hrest ih =>
        rw [following?_eq, skipSeparator_append hsep (htext.head?_separated _),
          htext.front_append hrest.ends]
        simp only [ih, Option.map_some]

theorem ofChars?_eq_some_iff {cs : List Char} {clauses : List Clause} :
    ofChars? cs = some clauses ↔ Outline clauses cs := by
  unfold ofChars?
  constructor
  · intro h
    split at h
    · next c rest hfront =>
        obtain ⟨others, hothers, rfl⟩ := Option.map_eq_some_iff.mp h
        obtain ⟨lead, hlead, hcs⟩ := exists_skipSpacing cs
        obtain ⟨text, htext, hrest⟩ := exists_isText_of_front hfront
        exact ⟨lead, text, rest, c, others, hlead, htext, following?_eq_some_iff.mp hothers, rfl,
          by rw [hrest, hcs]⟩
    · cases h
  · rintro ⟨lead, text, rest, c, others, hlead, htext, hrest, rfl, rfl⟩
    rw [skipSpacing_append hlead fun x hx => (htext.head?_separated _ x hx).1,
      htext.front_append hrest.ends]
    simp only [following?_eq_some_iff.mpr hrest, Option.map_some]

/-! ### Rules of clauses -/

/-- What a clause says as a rule: the sign and the word are taken as they are written, and a
star asks for a cascade that is admissible. -/
structure Reads (c : Clause) (r : Rule) : Prop where
  comparison : r.comparison = c.comparison
  parts_ne_nil : r.duration.parts ≠ []
  isText : r.duration.IsText c.word
  mode : r.mode = if c.starred then .cascade else .simple
  admissible : r.Admissible

theorem rule_eq_ok_iff {source : String} {c : Clause} {r : Rule} :
    c.rule source = .ok r ↔ c.Reads r := by
  constructor
  · intro h
    have hadmissible := admissible_of_rule h
    obtain ⟨duration, hduration, h⟩ := bind_eq_ok_iff.mp h
    obtain ⟨hparts, htext⟩ := Duration.parse_ofList_eq_ok_iff.mp hduration
    split at h
    · next hstar =>
        split at h
        · split at h
          · split at h
            · cases h
              exact ⟨rfl, hparts, htext, (if_pos hstar).symm, hadmissible⟩
            · cases h
          · cases h
        · cases h
    · next hstar =>
        cases h
        exact ⟨rfl, hparts, htext, (if_neg hstar).symm, hadmissible⟩
  · rintro ⟨hcomparison, hparts, htext, hmode, hadmissible⟩
    obtain ⟨comparison, duration, mode⟩ := r
    have hduration := Duration.parse_ofList_eq_ok_iff.mpr ⟨hparts, htext⟩
    unfold rule
    rw [hduration, ok_bind]
    split
    · next hstar =>
        rw [if_pos hstar] at hmode
        obtain ⟨⟨p, length, hp, hlength⟩, hop⟩ := hadmissible hmode
        cases hcomparison
        cases hmode
        have hsubDay : p.unit.isSubDay = true := Option.isSome_iff_exists.mpr ⟨length, hlength⟩
        dsimp only at hp hop
        rw [hp]
        dsimp only
        rw [if_pos hsubDay, if_pos hop]
        rfl
    · next hstar =>
        rw [if_neg hstar] at hmode
        cases hcomparison
        cases hmode
        rfl

/-- A rule is written as its clause, without spacing. -/
theorem Reads.chars {c : Clause} {r : Rule} (h : c.Reads r) :
    r.chars = c.comparison.chars ++ (c.word ++ c.star) := by
  rw [Rule.chars, h.comparison, ← Duration.isText_iff.mp h.isText, h.mode, star,
    List.append_assoc]
  cases c.starred <;> rfl

/-- A clause whose word is a duration makes a rule, or its star is refused. -/
theorem rule_of_duration {source : String} {c : Clause} {d : Duration}
    (h : Duration.parse (String.ofList c.word) = .ok d) :
    (∃ r, c.rule source = .ok r) ∨
      ∃ fault, c.rule source = .error (.unsupportedCascade source fault) := by
  unfold rule
  rw [h, ok_bind]
  split
  · split
    · split
      · split
        · exact .inl ⟨_, rfl⟩
        · exact .inr ⟨_, rfl⟩
      · exact .inr ⟨_, rfl⟩
    · exact .inr ⟨_, rfl⟩
  · exact .inl ⟨_, rfl⟩

/-- A clause that makes no rule is refused for its word, or else for its star. -/
theorem rule_eq_error {c : Clause} (source : String) (h : ¬∃ r, c.Reads r) :
    ((∃ d : Duration, d.parts ≠ [] ∧ d.IsText c.word) →
      ∃ fault, c.rule source = .error (.unsupportedCascade source fault)) ∧
    ((¬∃ d : Duration, d.parts ≠ [] ∧ d.IsText c.word) →
      ∃ fault, c.rule source = .error (.malformedDuration (String.ofList c.word) fault)) := by
  constructor
  · rintro ⟨d, hd⟩
    rcases rule_of_duration (Duration.parse_ofList_eq_ok_iff.mpr hd) with ⟨r, hr⟩ | hfault
    · exact absurd ⟨r, rule_eq_ok_iff.mp hr⟩ h
    · exact hfault
  · intro hnone
    obtain ⟨fault, hfault⟩ := Duration.parse_eq_error fun d hd =>
      hnone ⟨d, Duration.parse_ofList_eq_ok_iff.mp hd⟩
    refine ⟨fault, ?_⟩
    unfold rule
    rw [hfault]
    rfl

theorem rule_ne_malformedPattern {source text : String} {fault : PatternFault} {c : Clause} :
    c.rule source ≠ .error (.malformedPattern text fault) := by
  intro hc
  by_cases hreads : ∃ r, c.Reads r
  · obtain ⟨r, hr⟩ := hreads
    rw [rule_eq_ok_iff.mpr hr] at hc
    cases hc
  · obtain ⟨hstar, hword⟩ := rule_eq_error source hreads
    by_cases hduration : ∃ d : Duration, d.parts ≠ [] ∧ d.IsText c.word
    · obtain ⟨fault', hfault⟩ := hstar hduration
      rw [hfault] at hc
      cases hc
    · obtain ⟨fault', hfault⟩ := hword hduration
      rw [hfault] at hc
      cases hc

/-! ### Rules in a row -/

theorem intercalate_cons (sep first : List Char) (others : List (List Char)) :
    sep.intercalate (first :: others) = first ++ others.flatMap (sep ++ ·) := by
  induction others generalizing first with
  | nil => rw [List.intercalate_singleton, List.flatMap_nil, List.append_nil]
  | cons next others ih =>
      rw [List.intercalate_cons_cons, ih, List.flatMap_cons]
      simp only [List.append_assoc]

theorem follow_joined {sep : List Char} {clauses : List Clause} {rules : List Rule}
    (hsep : IsSeparator sep) (hrules : clauses.Forall₂ Reads rules)
    (htexts : ∀ c ∈ clauses, ∃ text, IsText c text) :
    Follow clauses ((rules.map Rule.chars).flatMap (sep ++ ·)) := by
  induction hrules with
  | nil => exact .done isSpacing_nil
  | cons hrule _ ih =>
      obtain ⟨⟨text, htext⟩, hothers⟩ := List.forall_mem_cons.mp htexts
      rw [List.map_cons, List.flatMap_cons, List.append_assoc, hrule.chars]
      exact .next hsep htext.compact (ih hothers)

/-- The rules of a text, joined by any separator, have its clauses again. -/
theorem Outline.joined {sep cs : List Char} {clauses : List Clause} {rules : List Rule}
    (h : Outline clauses cs) (hrules : clauses.Forall₂ Reads rules) (hsep : IsSeparator sep) :
    Outline clauses (sep.intercalate (rules.map Rule.chars)) := by
  obtain ⟨lead, text, rest, c, others, -, htext, hrest, rfl, -⟩ := h
  cases hrules with
  | cons hrule hothers =>
      rw [List.map_cons, intercalate_cons, hrule.chars]
      exact ⟨[], _, _, c, others, isSpacing_nil, htext.compact,
        follow_joined hsep hothers hrest.exists_isText, rfl, rfl⟩

end Clause

/-! ### Patterns -/

namespace Pattern

/-- The clauses of a text that has one or two of them. -/
def Outlines (source : String) (clauses : List Clause) : Prop :=
  Clause.Outline clauses source.toList ∧ clauses.length ≤ 2

theorem outlines_unique {source : String} {clauses clauses' : List Clause}
    (h : Outlines source clauses) (h' : Outlines source clauses') : clauses = clauses' := by
  have hread := Clause.ofChars?_eq_some_iff.mpr h.1
  rw [Clause.ofChars?_eq_some_iff.mpr h'.1] at hread
  exact (Option.some.inj hread).symm

/-- A text of one or two clauses is read clause by clause. -/
theorem parse_of_outlines {source : String} {clauses : List Clause} (h : Outlines source clauses) :
    parse source = clauses.mapM (Clause.rule source) >>= fun rules => .ok ⟨source, rules⟩ := by
  unfold parse
  rw [Clause.ofChars?_eq_some_iff.mpr h.1]
  have hcount : ¬maxClauses < clauses.length := Nat.not_lt.mpr h.2
  dsimp only
  rw [if_neg hcount]
  rfl

/-- Any other text has no shape. -/
theorem parse_of_not_outlines {source : String} (h : ¬∃ clauses, Outlines source clauses) :
    ∃ fault, parse source = .error (.malformedPattern source fault) := by
  unfold parse
  split
  · exact ⟨_, rfl⟩
  · next clauses hclauses =>
      dsimp only
      split
      · exact ⟨_, rfl⟩
      · next hcount =>
          exact absurd ⟨clauses, Clause.ofChars?_eq_some_iff.mp hclauses, Nat.not_lt.mp hcount⟩ h

theorem parse_eq_ok_iff {source : String} {p : Pattern} :
    parse source = .ok p ↔
      p.source = source ∧ ∃ clauses, Outlines source clauses ∧
        clauses.Forall₂ Clause.Reads p.rules := by
  by_cases hshape : ∃ clauses, Outlines source clauses
  · obtain ⟨clauses, hclauses⟩ := hshape
    rw [parse_of_outlines hclauses]
    simp only [bind_eq_ok_iff, mapM_eq_ok_iff, Clause.rule_eq_ok_iff]
    constructor
    · rintro ⟨rules, hrules, h⟩
      cases h
      exact ⟨rfl, clauses, hclauses, hrules⟩
    · rintro ⟨rfl, clauses', hclauses', hrules⟩
      rw [outlines_unique hclauses' hclauses] at hrules
      exact ⟨p.rules, hrules, rfl⟩
  · obtain ⟨fault, hfault⟩ := parse_of_not_outlines hshape
    rw [hfault]
    constructor
    · intro h
      cases h
    · rintro ⟨-, clauses, hclauses, -⟩
      exact absurd ⟨clauses, hclauses⟩ hshape

/-- The first clause that makes no rule settles how a text of one or two clauses is refused. -/
theorem parse_of_first {source : String} {before after : List Clause} {c : Clause}
    {e : LanguageError} (h : Outlines source (before ++ c :: after))
    (hbefore : ∀ b ∈ before, ∃ r, b.Reads r) (hc : c.rule source = .error e) :
    parse source = .error e := by
  rw [parse_of_outlines h, mapM_eq_error_iff_first.mpr]
  · rfl
  · refine ⟨before, c, after, rfl, ?_, hc⟩
    intro b hb
    obtain ⟨r, hr⟩ := hbefore b hb
    exact ⟨r, Clause.rule_eq_ok_iff.mpr hr⟩

/-- A text is malformed as a whole exactly when it is not outlined by one or two clauses. -/
theorem parse_eq_malformed_iff {source text : String} :
    (∃ fault, parse source = .error (.malformedPattern text fault)) ↔
      text = source ∧ ¬∃ clauses, Outlines source clauses := by
  constructor
  · rintro ⟨fault, hfault⟩
    by_cases hshape : ∃ clauses, Outlines source clauses
    · obtain ⟨clauses, hclauses⟩ := hshape
      rw [parse_of_outlines hclauses, bind_eq_error_iff, mapM_eq_error_iff_first] at hfault
      rcases hfault with ⟨before, c, after, -, -, hc⟩ | ⟨rules, -, h⟩
      · exact absurd hc Clause.rule_ne_malformedPattern
      · cases h
    · obtain ⟨fault', hfault'⟩ := parse_of_not_outlines hshape
      rw [hfault'] at hfault
      cases hfault
      exact ⟨rfl, hshape⟩
  · rintro ⟨rfl, hshape⟩
    exact parse_of_not_outlines hshape

/-- A pattern is read from a text of one or two clauses that make rules, and from no other: the
rules are those of the clauses, in their order. Any other text is malformed as a whole if it has
another shape, and else as its first clause that makes no rule: for its word, or for its star.
Rules that were read are read again when they are joined by any separator. -/
theorem parse_grammar (source : String) :
    (∀ p, parse source = .ok p ↔
      p.source = source ∧ ∃ clauses, Outlines source clauses ∧
        clauses.Forall₂ Clause.Reads p.rules) ∧
    (∀ text, (∃ fault, parse source = .error (.malformedPattern text fault)) ↔
      text = source ∧ ¬∃ clauses, Outlines source clauses) ∧
    (∀ before c after, Outlines source (before ++ c :: after) →
      (∀ b ∈ before, ∃ r, b.Reads r) → (¬∃ r, c.Reads r) →
      ((∃ d : Duration, d.parts ≠ [] ∧ d.IsText c.word) →
        ∃ fault, parse source = .error (.unsupportedCascade source fault)) ∧
      ((¬∃ d : Duration, d.parts ≠ [] ∧ d.IsText c.word) →
        ∃ fault, parse source = .error (.malformedDuration (String.ofList c.word) fault))) ∧
    ∀ p (sep : String), parse source = .ok p → IsSeparator sep.toList →
      parse (sep.intercalate (p.rules.map Rule.text)) =
        .ok ⟨sep.intercalate (p.rules.map Rule.text), p.rules⟩ := by
  refine ⟨fun p => parse_eq_ok_iff, fun text => parse_eq_malformed_iff, ?_, ?_⟩
  · intro before c after houtline hbefore hc
    obtain ⟨hstar, hword⟩ := Clause.rule_eq_error source hc
    constructor
    · intro hduration
      obtain ⟨fault, hfault⟩ := hstar hduration
      exact ⟨fault, parse_of_first houtline hbefore hfault⟩
    · intro hduration
      obtain ⟨fault, hfault⟩ := hword hduration
      exact ⟨fault, parse_of_first houtline hbefore hfault⟩
  · intro p sep hp hsep
    obtain ⟨-, clauses, ⟨houtline, hcount⟩, hrules⟩ := parse_eq_ok_iff.mp hp
    have hjoined : (sep.intercalate (p.rules.map Rule.text)).toList =
        sep.toList.intercalate (p.rules.map Rule.chars) := by
      simp [String.toList_intercalate, Rule.text, Function.comp_def]
    apply parse_eq_ok_iff.mpr
    refine ⟨rfl, clauses, ⟨?_, hcount⟩, hrules⟩
    rw [hjoined]
    exact houtline.joined hrules hsep

/-- The rules of a pattern with spacing are read again without it. -/
theorem parse_grammar_compact :
    let rules : List Rule :=
      [⟨.gt, ⟨[⟨1, .h, by decide⟩]⟩, .cascade⟩, ⟨.lt, ⟨[⟨8, .h, by decide⟩]⟩, .simple⟩]
    parse " > 1h* , <8h" = .ok ⟨" > 1h* , <8h", rules⟩ ∧
      parse ("".intercalate (rules.map Rule.text)) =
        .ok ⟨"".intercalate (rules.map Rule.text), rules⟩ := by
  intro rules
  have hread : parse " > 1h* , <8h" = .ok ⟨" > 1h* , <8h", rules⟩ := by decide +kernel
  have hempty : IsSeparator "".toList := .inl (String.toList_empty ▸ isSpacing_nil)
  have hjoined := (parse_grammar " > 1h* , <8h").2.2.2 ⟨" > 1h* , <8h", rules⟩ "" hread hempty
  exact ⟨hread, hjoined⟩

end Pattern

end Cadence
