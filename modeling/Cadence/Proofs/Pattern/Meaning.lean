import Cadence.Pattern.Compile
import Cadence.Proofs.Calendar.Date
import Cadence.Proofs.Outcome

/-!
# What patterns match

The meaning of a pattern is stated on the wall clock itself: a simple rule
compares calendar fields, and a cascading rule compares the time since the start
of the enclosing unit. The compiled predicate keeps exactly the readings that no
pattern matches, although it replaces elapsed time by finer fields and holds
numbers in counters.
-/

namespace Cadence

/-! ### Meaning -/

/-- The stretch within which a cascading rule counts a unit: the day for hours,
the next longer unit for minutes and seconds, and the second for all below. -/
def TimeUnit.enclosing : TimeUnit → Int
  | hour => nanosPerDay
  | minute => 3600000000000
  | second => 60000000000
  | _ => nanosPerSecond

/-- Nanoseconds since the start of the stretch that encloses a unit. -/
def Reading.elapsed (r : Reading) (u : TimeUnit) : Int := r.nanos % u.enclosing

/-- The readings that a rule is about. The numbers of its parts count in full. -/
def Rule.Matches (rule : Rule) (r : Reading) : Prop :=
  match rule.mode with
  | .simple =>
      ∀ p ∈ rule.duration.parts, rule.comparison.Holds (p.unit.component.value r) p.count
  | .cascade =>
      ∃ p length, rule.duration.parts = [p] ∧ p.unit.nanos? = some length ∧
        rule.comparison.Holds (r.elapsed p.unit) (p.count * length)

/-- The readings that all clauses of a pattern are about. -/
def Pattern.Matches (p : Pattern) (r : Reading) : Prop := ∀ rule ∈ p.rules, rule.Matches r

/-- A cascading rule counts one unit shorter than a day, and looks past a mark. -/
def Rule.Admissible (rule : Rule) : Prop :=
  rule.mode = .cascade →
    (∃ p length, rule.duration.parts = [p] ∧ p.unit.nanos? = some length) ∧
      (rule.comparison = .gt ∨ rule.comparison = .ge)

/-! ### Rules that are read -/

theorem Clause.admissible_of_rule {source : String} {c : Clause} {rule : Rule}
    (h : c.rule source = .ok rule) : rule.Admissible := by
  obtain ⟨duration, -, h⟩ := bind_eq_ok_iff.mp h
  intro hmode
  split at h
  · split at h
    · next part hparts =>
        split at h
        · next hsub =>
            split at h
            · next hop =>
                cases h
                obtain ⟨length, hlength⟩ := Option.isSome_iff_exists.mp hsub
                exact ⟨⟨part, length, hparts, hlength⟩, hop⟩
            · cases h
        · cases h
    · cases h
  · cases h
    cases hmode

theorem Pattern.admissible_of_parse {source : String} {p : Pattern}
    (h : Pattern.parse source = .ok p) : ∀ rule ∈ p.rules, rule.Admissible := by
  unfold Pattern.parse at h
  split at h
  · cases h
  · next clauses _ =>
      dsimp only at h
      split at h
      · cases h
      · obtain ⟨rules, hrules, h⟩ := bind_eq_ok_iff.mp h
        cases h
        intro rule hrule
        obtain ⟨c, -, hc⟩ := exists_of_mapM_eq_ok hrules hrule
        exact Clause.admissible_of_rule hc

/-! ### Fields and elapsed time -/

/-- The field of a short unit counts the whole units since the enclosing stretch began. -/
theorem TimeUnit.value_component {u : TimeUnit} {length : Int} (h : u.nanos? = some length)
    (r : Reading) : u.component.value r = r.elapsed u / length := by
  cases u <;> cases h <;>
    simp only [component, Component.value, Reading.elapsed, enclosing, Reading.hour,
      Reading.minute, Reading.second, Reading.secondOfDay, Reading.nanosOfSecond,
      Reading.nanosOfDay, nanosPerDay, nanosPerSecond] <;> omega

/-- Some finer field is positive exactly when time has passed since the last whole unit. -/
theorem TimeUnit.exists_finer_pos_iff {u : TimeUnit} {length : Int} (h : u.nanos? = some length)
    (r : Reading) : (∃ c ∈ u.finer, 0 < c.value r) ↔ 0 < r.elapsed u % length := by
  cases u <;> cases h <;>
    simp [finer, Component.value, Reading.elapsed, enclosing, Reading.minute, Reading.second,
      Reading.secondOfDay, Reading.nanosOfSecond, Reading.nanosOfDay, nanosPerDay,
      nanosPerSecond] <;> omega

theorem TimeUnit.nanos?_pos {u : TimeUnit} {length : Int} (h : u.nanos? = some length) :
    0 < length := by
  cases u <;> cases h <;> decide

/-- Every field stays below the numbers that a counter cannot hold. -/
theorem Component.value_lt_greatest {r : Reading} (h : r.Supported) (c : Component) :
    c.value r < Counter.greatest := by
  have hyear := Date.year_bounds h
  have hmonth := Date.month_bounds r.dayNumber
  have hday := Date.day_bounds r.dayNumber
  have hweek := Date.isoWeek_le r.dayNumber
  unfold Date.lastYear at hyear
  cases c <;>
    simp only [value, Reading.date, Reading.hour, Reading.minute, Reading.second,
      Reading.secondOfDay, Reading.nanosOfSecond, Reading.nanosOfDay, nanosPerDay,
      nanosPerSecond, Counter.greatest] <;> omega

/-- Against a value below the greatest counter, a number may be held by a counter. -/
theorem Comparison.holds_clamp_iff (op : Comparison) {v : Int} (h : v < Counter.greatest)
    (n : Nat) : op.Holds v (Counter.clamp n) ↔ op.Holds v n := by
  unfold Counter.clamp Counter.greatest at *
  cases op <;> simp only [Holds] <;> omega

/-- Past the mark, or on it with some remainder: the two ways to exceed a number of units. -/
theorem Comparison.holds_elapsed_iff {op : Comparison} (h : op = .gt ∨ op = .ge)
    {length : Int} (hlength : 0 < length) (e m : Int) :
    0 < e % length ∧ e / length = m ∨ op.Holds (e / length) m ↔ op.Holds e (m * length) := by
  have hle : m ≤ e / length ↔ m * length ≤ e := Int.le_ediv_iff_mul_le hlength
  rcases h with rfl | rfl
  · have hlt : m < e / length ↔ (m + 1) * length ≤ e := Int.le_ediv_iff_mul_le hlength
    have hdiv := Int.mul_ediv_add_emod e length
    change 0 < e % length ∧ e / length = m ∨ m < e / length ↔ m * length < e
    rw [Int.add_mul, Int.one_mul] at hlt
    constructor
    · rintro (⟨hrest, hmark⟩ | hpast)
      · rw [hmark, Int.mul_comm] at hdiv
        omega
      · have := hlt.mp hpast
        omega
    · intro hexceeds
      by_cases hmark : e / length = m
      · rw [hmark, Int.mul_comm] at hdiv
        exact Or.inl ⟨by omega, hmark⟩
      · have := hle.mpr (by omega)
        exact Or.inr (by omega)
  · change 0 < e % length ∧ e / length = m ∨ m ≤ e / length ↔ m * length ≤ e
    rw [← hle]
    constructor
    · rintro (⟨-, hmark⟩ | hpast)
      · omega
      · exact hpast
    · exact Or.inr

/-! ### Compiled predicates -/

variable {r : Reading}

namespace Duration.Part

theorem eval_compared (h : r.Supported) (op : Comparison) (p : Part) :
    (p.compared op).eval r = true ↔ op.Holds (p.unit.component.value r) p.count := by
  rw [compared, Predicate.eval_compare, decide_eq_true_iff]
  exact op.holds_clamp_iff (Component.value_lt_greatest h _) _

/-- The tree over finer fields says what one comparison of elapsed time says. -/
theorem eval_cascaded (h : r.Supported) {op : Comparison} (hop : op = .gt ∨ op = .ge)
    {p : Part} {length : Int} (hlength : p.unit.nanos? = some length) :
    (p.cascaded op).eval r = true ↔ op.Holds (r.elapsed p.unit) (p.count * length) := by
  have hfiner :
      (Predicate.anyOf (p.unit.finer.map fun c => .compare c .gt 0)).eval r = true ↔
        0 < r.elapsed p.unit % length := by
    rw [← TimeUnit.exists_finer_pos_iff hlength]
    simp only [Predicate.eval_anyOf, List.any_map, List.any_eq_true, Function.comp_apply,
      Predicate.eval_compare, decide_eq_true_iff]
    rfl
  have hmark : (p.compared .eq).eval r = true ↔ r.elapsed p.unit / length = p.count := by
    rw [eval_compared h, TimeUnit.value_component hlength]
    rfl
  have hpast : (p.compared op).eval r = true ↔ op.Holds (r.elapsed p.unit / length) p.count := by
    rw [eval_compared h, TimeUnit.value_component hlength]
  rw [← Comparison.holds_elapsed_iff hop (TimeUnit.nanos?_pos hlength), ← hfiner, ← hmark, ← hpast]
  simp [cascaded]

end Duration.Part

theorem Rule.eval_predicate (h : r.Supported) {rule : Rule} (hrule : rule.Admissible) :
    rule.predicate.eval r = true ↔ rule.Matches r := by
  unfold predicate Matches
  cases hmode : rule.mode with
  | simple =>
      simp [List.all_map, Duration.Part.eval_compared h]
  | cascade =>
      obtain ⟨⟨p, length, hparts, hlength⟩, hop⟩ := hrule hmode
      simp only [hparts, Duration.Part.eval_cascaded h hop hlength]
      constructor
      · intro hpast
        exact ⟨p, length, rfl, hlength, hpast⟩
      · rintro ⟨p', length', hp, hlength', hpast⟩
        cases hp
        cases hlength.symm.trans hlength'
        exact hpast

theorem Pattern.eval_predicate (h : r.Supported) {p : Pattern}
    (hp : ∀ rule ∈ p.rules, rule.Admissible) : p.predicate.eval r = true ↔ p.Matches r := by
  simp only [predicate, Predicate.eval_allOf, List.all_map, List.all_eq_true, Function.comp_apply,
    Matches]
  constructor
  · intro hall rule hrule
    exact (Rule.eval_predicate h (hp rule hrule)).mp (hall rule hrule)
  · intro hall rule hrule
    exact (Rule.eval_predicate h (hp rule hrule)).mpr (hall rule hrule)

/-- The order of the patterns and their repetition do not matter. -/
theorem Pattern.eval_keep_iff (patterns : List Pattern) (r : Reading) :
    (Pattern.keep patterns).eval r = true ↔ ∀ p ∈ patterns, p.predicate.eval r = false := by
  unfold keep
  split
  · next hempty => simp [List.isEmpty_iff.mp hempty]
  · simp only [Predicate.eval_negation, Predicate.eval_anyOf, List.any_map, Bool.not_eq_true',
      List.any_eq_false, Function.comp_apply, Bool.not_eq_true]

theorem Pattern.eval_keep (h : r.Supported) {patterns : List Pattern}
    (hp : ∀ p ∈ patterns, ∀ rule ∈ p.rules, rule.Admissible) :
    (Pattern.keep patterns).eval r = true ↔ ∀ p ∈ patterns, ¬p.Matches r := by
  rw [eval_keep_iff]
  apply forall₂_congr
  intro p hmem
  rw [← eval_predicate h (hp p hmem), Bool.not_eq_true]

/-- Patterns that can all be read compile, and the predicate keeps a reading
exactly when none of them matches it. -/
theorem Pattern.eval_compile {sources : List String} {patterns : List Pattern}
    (h : List.Forall₂ (fun source p => Pattern.parse source = .ok p) sources patterns) :
    ∃ predicate, Pattern.compile sources = .ok predicate ∧
      ∀ r : Reading, r.Supported →
        (predicate.eval r = true ↔ ∀ p ∈ patterns, ¬p.Matches r) := by
  have hread := mapM_eq_ok_iff.mpr h
  refine ⟨keep patterns, ?_, ?_⟩
  · exact bind_eq_ok_iff.mpr ⟨patterns, hread, rfl⟩
  · intro r hr
    apply eval_keep hr
    intro p hp
    obtain ⟨source, -, hsource⟩ := exists_of_mapM_eq_ok hread hp
    exact admissible_of_parse hsource

/-- A night between one and eight, just past the mark that opens it. -/
theorem Pattern.eval_compile_night :
    ∃ predicate, Pattern.compile [">1h*<8h"] = .ok predicate ∧
      (predicate.eval ⟨3600000000001⟩ = true ↔
        ∀ p ∈ [(⟨">1h*<8h", [⟨.gt, ⟨[⟨1, .h, by decide⟩]⟩, .cascade⟩,
            ⟨.lt, ⟨[⟨8, .h, by decide⟩]⟩, .simple⟩]⟩ : Pattern)],
          ¬p.Matches ⟨3600000000001⟩) := by
  have hread : Pattern.parse ">1h*<8h" =
      .ok ⟨">1h*<8h", [⟨.gt, ⟨[⟨1, .h, by decide⟩]⟩, .cascade⟩,
        ⟨.lt, ⟨[⟨8, .h, by decide⟩]⟩, .simple⟩]⟩ := by decide +kernel
  obtain ⟨predicate, hcompile, heval⟩ := Pattern.eval_compile (.cons hread .nil)
  exact ⟨predicate, hcompile, heval _ (by decide)⟩

end Cadence
