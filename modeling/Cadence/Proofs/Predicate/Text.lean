import Cadence.Proofs.Pattern.Grammar
import Mathlib.Data.List.Nodup
import Std.Data.String.ToInt

/-!
# Predicates by their text

The text of a predicate is read from its front. The first character tells literals, comparisons,
groups and negations apart, a comparison ends behind its number, and an operand of a group ends
where a separator or the closing parenthesis begins. What the text alone does not tell is whether
a group without a separator is a conjunction or a disjunction. Compiling leaves conjunctions with
two operands or more, so no two compiled predicates have the same text.
-/

namespace Cadence

/-- A run that the text behind it does not go on with ends in one place only. -/
theorem Scan.append_inj_of_run {p : Char → Bool} {found found' rest rest' : List Char}
    (h : found ++ rest = found' ++ rest')
    (hfound : found ≠ [] ∧ ∀ c ∈ found, p c = true)
    (hfound' : found' ≠ [] ∧ ∀ c ∈ found', p c = true)
    (hrest : ∀ c, rest.head? = some c → p c = false)
    (hrest' : ∀ c, rest'.head? = some c → p c = false) : found = found' ∧ rest = rest' := by
  have hrun := run?_append hfound.1 hfound.2 hrest
  rw [h, run?_append hfound'.1 hfound'.2 hrest'] at hrun
  cases hrun
  exact ⟨rfl, rfl⟩

namespace Component

theorem name_injective : Function.Injective name := by
  have hall : ∀ c, c ∈ all := by
    intro c
    cases c <;> decide
  intro c c' h
  exact List.inj_on_of_nodup_map (by decide : (all.map name).Nodup) (hall c) (hall c') h

/-- A name is one word. -/
theorem name_solid (c : Component) :
    c.name.toList ≠ [] ∧ ∀ x ∈ c.name.toList, (x != ' ') = true := by
  cases c <;> simp [name]

end Component

namespace Predicate

/-! ### Parts of a comparison -/

variable {s t : List Char}

/-- The characters of a number. -/
def isNumberChar (c : Char) : Bool := c.isDigit || c == '-'

/-- A text that does not go on with a number before it. -/
def EndsNumber (cs : List Char) : Prop := ∀ c, cs.head? = some c → isNumberChar c = false

theorem endsNumber_nil : EndsNumber [] := nofun

theorem endsNumber_cons {c : Char} (h : isNumberChar c = false) (cs : List Char) :
    EndsNumber (c :: cs) := by
  intro x hx
  cases hx
  exact h

theorem isNumberChar_toDigits (n : Nat) : ∀ c ∈ Nat.toDigits 10 n, isNumberChar c = true := by
  intro c hc
  rw [isNumberChar, Nat.isDigit_of_mem_toDigits (by omega) (by omega) hc, Bool.true_or]

theorem isNumberChar_repr (v : Int) :
    v.repr.toList ≠ [] ∧ ∀ c ∈ v.repr.toList, isNumberChar c = true := by
  rw [Int.repr_eq_if]
  split
  · rw [Nat.toList_repr]
    exact ⟨Nat.toDigits_ne_nil, isNumberChar_toDigits _⟩
  · rw [String.toList_append, Nat.toList_repr]
    refine ⟨by simp, List.forall_mem_append.mpr ⟨?_, isNumberChar_toDigits _⟩⟩
    simp [isNumberChar]

theorem name_append_inj {c c' : Component}
    (h : c.name.toList ++ ' ' :: s = c'.name.toList ++ ' ' :: t) : c = c' ∧ s = t := by
  have hblank : ∀ s : List Char, ∀ x, (' ' :: s).head? = some x → (x != ' ') = false := by
    intro s x hx
    cases hx
    rfl
  obtain ⟨hname, hrest⟩ :=
    Scan.append_inj_of_run h c.name_solid c'.name_solid (hblank s) (hblank t)
  exact ⟨Component.name_injective (String.toList_inj.mp hname), (List.cons.inj hrest).2⟩

theorem sign_append_inj {op op' : Comparison}
    (h : op.chars ++ ' ' :: s = op'.chars ++ ' ' :: t) : op = op' ∧ s = t := by
  have hblank : ∀ s : List Char, (' ' :: s).head? ≠ some '=' := by simp
  have hread := op.read?_chars_append (hblank s)
  rw [h, op'.read?_chars_append (hblank t)] at hread
  cases hread
  exact ⟨rfl, rfl⟩

theorem repr_append_inj {v v' : Int} (hs : EndsNumber s) (ht : EndsNumber t)
    (h : v.repr.toList ++ s = v'.repr.toList ++ t) : v = v' ∧ s = t := by
  obtain ⟨hnumber, hrest⟩ :=
    Scan.append_inj_of_run h (isNumberChar_repr v) (isNumberChar_repr v') hs ht
  exact ⟨Int.repr_inj.mp (String.toList_inj.mp hnumber), hrest⟩

/-! ### Predicates in front of a text -/

theorem text_compare_append (c : Component) (op : Comparison) (v : Int) (s : List Char) :
    (compare c op v).text.toList ++ s =
      c.name.toList ++ ' ' :: (op.chars ++ ' ' :: (v.repr.toList ++ s)) := by
  simp [text, Comparison.symbol, toString]

theorem text_conj_append (ps : List Predicate) (s : List Char) :
    (conj ps).text.toList ++ s = '(' :: ((joined " AND " ps).toList ++ ')' :: s) := by
  simp [text]

theorem text_disj_append (ps : List Predicate) (s : List Char) :
    (disj ps).text.toList ++ s = '(' :: ((joined " OR " ps).toList ++ ')' :: s) := by
  simp [text]

theorem text_negation_append (p : Predicate) (s : List Char) :
    (negation p).text.toList ++ s = "NOT ".toList ++ (p.text.toList ++ s) := by
  simp [text]

/-- The kinds of predicates that the first character tells apart. -/
inductive Shape
  | literal
  | comparison
  | group
  | negation

def shape : Predicate → Shape
  | literal _ => .literal
  | compare .. => .comparison
  | conj _ | disj _ => .group
  | negation _ => .negation

/-- The kind of predicate that begins with a character. -/
def Shape.ofFirst? : Char → Option Shape
  | 't' | 'f' => some .literal
  | '(' => some .group
  | ')' => none
  | 'N' => some .negation
  | _ => some .comparison

theorem exists_first (p : Predicate) (s : List Char) :
    ∃ c rest, p.text.toList ++ s = c :: rest ∧ Shape.ofFirst? c = some p.shape := by
  cases p with
  | literal b => cases b <;> simp [text, Shape.ofFirst?, shape]
  | compare c op v =>
      rw [text_compare_append]
      cases c <;> simp [Component.name, Shape.ofFirst?, shape]
  | conj ps => exact ⟨_, _, text_conj_append ps s, rfl⟩
  | disj ps => exact ⟨_, _, text_disj_append ps s, rfl⟩
  | negation p => simp [text_negation_append, Shape.ofFirst?, shape]

theorem shape_eq_of_append {p q : Predicate}
    (h : p.text.toList ++ s = q.text.toList ++ t) : p.shape = q.shape := by
  obtain ⟨c, rest, hp, hc⟩ := p.exists_first s
  obtain ⟨c', rest', hq, hc'⟩ := q.exists_first t
  rw [hp, hq] at h
  cases h
  exact Option.some.inj (hc.symm.trans hc')

theorem text_append_ne_close (p : Predicate) (s t : List Char) :
    p.text.toList ++ s ≠ ')' :: t := by
  obtain ⟨c, rest, hp, hc⟩ := p.exists_first s
  rw [hp]
  intro h
  cases h
  cases hc

/-! ### Operands of a group -/

/-- Predicates whose conjunctions all have two operands or more. -/
inductive Legible : Predicate → Prop
  | literal (b : Bool) : Legible (.literal b)
  | compare (c : Component) (op : Comparison) (v : Int) : Legible (.compare c op v)
  | conj {ps : List Predicate} : 2 ≤ ps.length → (∀ p ∈ ps, Legible p) → Legible (.conj ps)
  | disj {ps : List Predicate} : (∀ p ∈ ps, Legible p) → Legible (.disj ps)
  | negation {p : Predicate} : Legible p → Legible (.negation p)

/-- A predicate that no other legible one is mistaken for, whatever stands behind the two. -/
def Settled (p : Predicate) : Prop :=
  ∀ ⦃q : Predicate⦄ ⦃s t : List Char⦄, q.Legible → EndsNumber s → EndsNumber t →
    p.text.toList ++ s = q.text.toList ++ t → p = q ∧ s = t

/-- What stands between the operands of a conjunction and of a disjunction. -/
def IsConnective (sep : String) : Prop := sep = " AND " ∨ sep = " OR "

/-- What is written behind the first operand of a group. -/
def followers (sep : String) (ps : List Predicate) : List Char :=
  ps.flatMap fun p => sep.toList ++ p.text.toList

theorem followers_cons (sep : String) (p : Predicate) (ps : List Predicate) (s : List Char) :
    followers sep (p :: ps) ++ s =
      sep.toList ++ (p.text.toList ++ (followers sep ps ++ s)) := by
  simp [followers]

theorem joined_cons_append (sep : String) (p : Predicate) (ps : List Predicate) (s : List Char) :
    (joined sep (p :: ps)).toList ++ s = p.text.toList ++ (followers sep ps ++ s) := by
  induction ps generalizing p with
  | nil => simp [joined, followers]
  | cons q ps ih => simp [joined, followers_cons, ih q]

theorem IsConnective.append_inj {sep sep' : String} (h : IsConnective sep) (h' : IsConnective sep')
    (heq : sep.toList ++ s = sep'.toList ++ t) : sep = sep' ∧ s = t := by
  rcases h with rfl | rfl <;> rcases h' with rfl | rfl <;> simp_all

theorem IsConnective.exists_blank {sep : String} (h : IsConnective sep) (s : List Char) :
    ∃ rest, sep.toList ++ s = ' ' :: rest := by
  rcases h with rfl | rfl <;> simp

section Groups

variable {sep sep' : String} {ps qs : List Predicate}

/-- An operand ends in front of a blank or of the closing parenthesis. -/
theorem endsNumber_followers (hsep : IsConnective sep) (ps : List Predicate) (s : List Char) :
    EndsNumber (followers sep ps ++ ')' :: s) := by
  cases ps with
  | nil => exact endsNumber_cons rfl s
  | cons p ps =>
      rw [followers_cons]
      obtain ⟨rest, hrest⟩ := hsep.exists_blank (p.text.toList ++ (followers sep ps ++ ')' :: s))
      rw [hrest]
      exact endsNumber_cons rfl rest

theorem followers_cons_ne_close (hsep : IsConnective sep) (p : Predicate) (ps : List Predicate)
    (s t : List Char) : followers sep (p :: ps) ++ s ≠ ')' :: t := by
  rw [followers_cons]
  obtain ⟨rest, hrest⟩ := hsep.exists_blank (p.text.toList ++ (followers sep ps ++ s))
  rw [hrest]
  nofun

theorem followers_append_inj (hsep : IsConnective sep) (hsep' : IsConnective sep')
    (hps : ∀ p ∈ ps, p.Settled) (hqs : ∀ q ∈ qs, q.Legible)
    (h : followers sep ps ++ ')' :: s = followers sep' qs ++ ')' :: t) :
    ps = qs ∧ s = t ∧ (ps ≠ [] → sep = sep') := by
  induction ps generalizing qs with
  | nil =>
      cases qs with
      | nil => exact ⟨rfl, (List.cons.inj h).2, absurd rfl⟩
      | cons q qs => exact absurd h.symm (followers_cons_ne_close hsep' q qs _ s)
  | cons p ps ih =>
      cases qs with
      | nil => exact absurd h (followers_cons_ne_close hsep p ps _ t)
      | cons q qs =>
          obtain ⟨hp, hrest⟩ := List.forall_mem_cons.mp hps
          obtain ⟨hq, hrest'⟩ := List.forall_mem_cons.mp hqs
          rw [followers_cons, followers_cons] at h
          obtain ⟨rfl, hoperand⟩ := hsep.append_inj hsep' h
          obtain ⟨rfl, hothers⟩ :=
            hp hq (endsNumber_followers hsep ps s) (endsNumber_followers hsep qs t) hoperand
          obtain ⟨rfl, rfl, -⟩ := ih hrest hrest' hothers
          exact ⟨rfl, rfl, fun _ => rfl⟩

/-- A group is read up to the parenthesis that closes it. From two operands on, it tells its
separator as well. -/
theorem joined_append_inj (hsep : IsConnective sep) (hsep' : IsConnective sep')
    (hps : ∀ p ∈ ps, p.Settled) (hqs : ∀ q ∈ qs, q.Legible)
    (h : (joined sep ps).toList ++ ')' :: s = (joined sep' qs).toList ++ ')' :: t) :
    ps = qs ∧ s = t ∧ (2 ≤ ps.length → sep = sep') := by
  have hempty : ∀ sep : String, (joined sep []).toList = [] := by simp [joined]
  cases ps with
  | nil =>
      rw [hempty, List.nil_append] at h
      cases qs with
      | nil =>
          rw [hempty] at h
          exact ⟨rfl, (List.cons.inj h).2, fun htwo => absurd htwo (by decide)⟩
      | cons q qs =>
          rw [joined_cons_append] at h
          exact absurd h.symm (text_append_ne_close q _ s)
  | cons p ps =>
      rw [joined_cons_append] at h
      cases qs with
      | nil =>
          rw [hempty, List.nil_append] at h
          exact absurd h (text_append_ne_close p _ t)
      | cons q qs =>
          rw [joined_cons_append] at h
          obtain ⟨hp, hrest⟩ := List.forall_mem_cons.mp hps
          obtain ⟨hq, hrest'⟩ := List.forall_mem_cons.mp hqs
          obtain ⟨rfl, hothers⟩ :=
            hp hq (endsNumber_followers hsep ps s) (endsNumber_followers hsep' qs t) h
          obtain ⟨rfl, rfl, hsame⟩ := followers_append_inj hsep hsep' hrest hrest' hothers
          refine ⟨rfl, rfl, fun htwo => hsame ?_⟩
          exact List.length_pos_iff.mp (Nat.lt_of_succ_lt_succ htwo)

end Groups

/-! ### Legible predicates -/

/-- A text begins with one legible predicate at most. -/
theorem Legible.settled {p : Predicate} (hp : p.Legible) : p.Settled := by
  have hand : IsConnective " AND " := .inl rfl
  have hor : IsConnective " OR " := .inr rfl
  induction hp with
  | literal b =>
      intro q s t hq hs ht h
      have hshape := shape_eq_of_append h
      cases hq with
      | literal b' => cases b <;> cases b' <;> simp_all [text]
      | _ => cases hshape
  | compare c op v =>
      intro q s t hq hs ht h
      have hshape := shape_eq_of_append h
      cases hq with
      | compare c' op' v' =>
          rw [text_compare_append, text_compare_append] at h
          obtain ⟨rfl, hsign⟩ := name_append_inj h
          obtain ⟨rfl, hnumber⟩ := sign_append_inj hsign
          obtain ⟨rfl, rfl⟩ := repr_append_inj hs ht hnumber
          exact ⟨rfl, rfl⟩
      | _ => cases hshape
  | conj htwo _ ih =>
      intro q s t hq hs ht h
      have hshape := shape_eq_of_append h
      cases hq with
      | conj _ hqs =>
          rw [text_conj_append, text_conj_append] at h
          obtain ⟨rfl, rfl, -⟩ := joined_append_inj hand hand ih hqs (List.cons.inj h).2
          exact ⟨rfl, rfl⟩
      | disj hqs =>
          -- Both begin with a parenthesis, but only one of them is separated by this word.
          rw [text_conj_append, text_disj_append] at h
          obtain ⟨-, -, hsame⟩ := joined_append_inj hand hor ih hqs (List.cons.inj h).2
          exact absurd (hsame htwo) (by decide)
      | _ => cases hshape
  | disj _ ih =>
      intro q s t hq hs ht h
      have hshape := shape_eq_of_append h
      cases hq with
      | conj htwo hqs =>
          rw [text_disj_append, text_conj_append] at h
          obtain ⟨rfl, -, hsame⟩ := joined_append_inj hor hand ih hqs (List.cons.inj h).2
          exact absurd (hsame htwo) (by decide)
      | disj hqs =>
          rw [text_disj_append, text_disj_append] at h
          obtain ⟨rfl, rfl, -⟩ := joined_append_inj hor hor ih hqs (List.cons.inj h).2
          exact ⟨rfl, rfl⟩
      | _ => cases hshape
  | negation _ ih =>
      intro q s t hq hs ht h
      have hshape := shape_eq_of_append h
      cases hq with
      | negation hq =>
          rw [text_negation_append, text_negation_append] at h
          obtain ⟨rfl, rfl⟩ := ih hq hs ht (List.append_cancel_left h)
          exact ⟨rfl, rfl⟩
      | _ => cases hshape

theorem Legible.text_inj {p q : Predicate} (hp : p.Legible) (hq : q.Legible) :
    p.text = q.text ↔ p = q := by
  constructor
  · intro h
    have happend : p.text.toList ++ [] = q.text.toList ++ [] := by rw [h]
    exact (hp.settled hq endsNumber_nil endsNumber_nil happend).1
  · rintro rfl
    rfl

/-! ### Compiled predicates -/

theorem legible_allOf {ps : List Predicate} (hne : ps ≠ []) (h : ∀ p ∈ ps, p.Legible) :
    (allOf ps).Legible := by
  match ps with
  | [] => exact absurd rfl hne
  | [p] => exact h p List.mem_cons_self
  | p :: q :: ps => exact .conj (by simp) h

theorem legible_anyOf {ps : List Predicate} (h : ∀ p ∈ ps, p.Legible) : (anyOf ps).Legible := by
  unfold anyOf
  split
  · exact List.forall_mem_singleton.mp h
  · exact .disj h

theorem legible_pair {p q : Predicate} (hp : p.Legible) (hq : q.Legible) :
    ∀ operand ∈ [p, q], operand.Legible := by
  simp [hp, hq]

end Predicate

open Predicate (Legible legible_allOf legible_anyOf legible_pair)

theorem Duration.Part.legible_compared (op : Comparison) (p : Duration.Part) :
    (p.compared op).Legible :=
  .compare _ _ _

theorem Duration.Part.legible_cascaded (op : Comparison) (p : Duration.Part) :
    (p.cascaded op).Legible := by
  have hfiner : (Predicate.anyOf (p.unit.finer.map fun c => .compare c .gt 0)).Legible := by
    apply legible_anyOf
    intro q hq
    obtain ⟨c, -, rfl⟩ := List.mem_map.mp hq
    exact .compare c .gt 0
  have hmark := legible_pair hfiner (p.legible_compared .eq)
  exact .disj (legible_pair (.conj (Nat.le_refl 2) hmark) (p.legible_compared op))

theorem Rule.legible_predicate {r : Rule} (h : r.duration.parts ≠ []) : r.predicate.Legible := by
  unfold predicate
  split
  · apply legible_allOf
    · simpa using h
    · intro q hq
      obtain ⟨p, -, rfl⟩ := List.mem_map.mp hq
      exact p.legible_compared r.comparison
  · split
    · next p _ _ => exact p.legible_cascaded r.comparison
    · exact .literal false

theorem Clause.legible_rules {clauses : List Clause} {rules : List Rule}
    (h : clauses.Forall₂ Clause.Reads rules) : ∀ r ∈ rules, r.predicate.Legible := by
  induction h with
  | nil => nofun
  | cons hrule _ ih =>
      exact List.forall_mem_cons.mpr ⟨Rule.legible_predicate hrule.parts_ne_nil, ih⟩

namespace Pattern

/-- A pattern that was read has rules, and each of them has parts. -/
theorem legible_predicate {source : String} {p : Pattern} (h : parse source = .ok p) :
    p.predicate.Legible := by
  obtain ⟨-, clauses, ⟨houtline, -⟩, hrules⟩ := parse_eq_ok_iff.mp h
  obtain ⟨_, _, _, c, others, -, -, -, rfl, -⟩ := houtline
  have hne : p.rules ≠ [] := by
    intro hnil
    rw [hnil] at hrules
    cases hrules
  apply legible_allOf
  · simpa using hne
  · intro q hq
    obtain ⟨r, hr, rfl⟩ := List.mem_map.mp hq
    exact Clause.legible_rules hrules r hr

theorem compile_of_parse {sources : List String} {patterns : List Pattern}
    (h : List.Forall₂ (fun source p => parse source = .ok p) sources patterns) :
    compile sources = .ok (keep patterns) :=
  bind_eq_ok_iff.mpr ⟨patterns, mapM_eq_ok_iff.mpr h, rfl⟩

theorem legible_compile {sources : List String} {p : Predicate} (h : compile sources = .ok p) :
    p.Legible := by
  obtain ⟨patterns, hread, hkeep⟩ := bind_eq_ok_iff.mp h
  cases hkeep
  unfold keep
  split
  · exact .literal true
  · apply Legible.negation
    apply legible_anyOf
    intro q hq
    obtain ⟨pattern, hpattern, rfl⟩ := List.mem_map.mp hq
    obtain ⟨source, -, hparse⟩ := exists_of_mapM_eq_ok hread hpattern
    exact legible_predicate hparse

/-- Compiled predicates with the same text are equal, and so they keep the same readings. -/
theorem text_compile_inj {sources others : List String} {p q : Predicate}
    (h : compile sources = .ok p) (h' : compile others = .ok q) (htext : p.text = q.text) :
    p = q ∧ ∀ r, p.eval r = q.eval r := by
  have heq := ((legible_compile h).text_inj (legible_compile h')).mp htext
  exact ⟨heq, fun r => by rw [heq]⟩

/-- One clause of two units, and two clauses of one unit each, behind a rule without finer
fields. -/
theorem text_compile_inj_clauses :
    ∃ p q, compile [">1ns*", ">1h1m"] = .ok p ∧ compile [">1ns*", ">1h, >1m"] = .ok q ∧
      p.text = "NOT (((() AND nanosecond = 1) OR nanosecond > 1) OR (hour > 1 AND minute > 1))" ∧
      p.text = q.text ∧ p = q ∧ ∀ r, p.eval r = q.eval r := by
  have hcascade :
      parse ">1ns*" = .ok ⟨">1ns*", [⟨.gt, ⟨[⟨1, .ns, by decide⟩]⟩, .cascade⟩]⟩ := by
    decide +kernel
  have hunits : parse ">1h1m" =
      .ok ⟨">1h1m", [⟨.gt, ⟨[⟨1, .h, by decide⟩, ⟨1, .m, by decide⟩]⟩, .simple⟩]⟩ := by
    decide +kernel
  have hclauses : parse ">1h, >1m" =
      .ok ⟨">1h, >1m", [⟨.gt, ⟨[⟨1, .h, by decide⟩]⟩, .simple⟩,
        ⟨.gt, ⟨[⟨1, .m, by decide⟩]⟩, .simple⟩]⟩ := by
    decide +kernel
  have hp := compile_of_parse (.cons hcascade (.cons hunits .nil))
  have hq := compile_of_parse (.cons hcascade (.cons hclauses .nil))
  refine ⟨_, _, hp, hq, ?_, ?_, text_compile_inj hp hq ?_⟩ <;> decide +kernel

end Pattern

end Cadence
