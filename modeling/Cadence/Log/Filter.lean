import Cadence.Log.Directive

/-! # Log filters

A filter is a list of directives. Of the static ones that concern a module the most
specific one decides on its events and spans. A dynamic directive lets the spans
that it concerns pass, and within them whatever its threshold admits. -/

namespace Cadence.Log

/-- Directives in the order in which they were given. -/
structure Filter where
  directives : List Directive
deriving DecidableEq, Repr

namespace Filter

/-! ### Reading -/

/-- The parts of a filter text: what stands between commas, if anything does. -/
def parts (s : String) : List String :=
  ((s.toList.splitOnP (· = ',')).filter (!·.isEmpty)).map String.ofList

/-- Reads a filter, all of whose directives have to be understood. -/
def parse (s : String) : Except DirectiveFault Filter := do
  let directives ← (parts s).mapM Directive.parse
  return ⟨directives⟩

/-- Reads the directives of a filter that are understood. Without any, errors
pass. -/
def parseLenient (s : String) : Filter :=
  match (parts s).filterMap fun part => (Directive.parse part).toOption with
  | [] => ⟨[⟨none, none, none, some .error⟩]⟩
  | directives => ⟨directives⟩

/-- What is said of the directives that are not understood. -/
def complaints (s : String) : List String :=
  (parts s).filterMap fun part =>
    match Directive.parse part with
    | .ok _ => none
    | .error fault => some ("ignoring `" ++ part ++ "`: " ++ fault.message)

/-! ### Static directives -/

/-- The most specific of some directives, and of equally specific ones the last. -/
def mostSpecific? (directives : List Directive) : Option Directive :=
  directives.foldl (fun best d =>
    match best with
    | none => some d
    | some b => if b.isCoveredBy d then some d else some b) none

/-- The threshold for a module. Directives with a field concern spans with any
fields, but only such events as have theirs. -/
def threshold (f : Filter) (path : String) (fields : Option (List String)) : Threshold :=
  let concerned := f.directives.filter fun d =>
    d.IsStatic ∧ d.ConcernsPath path ∧ ∀ names ∈ fields, ∀ name ∈ d.fieldName, name ∈ names
  (mostSpecific? concerned).bind Directive.threshold

/-! ### Dynamic directives -/

/-- The dynamic directives. Of those for the same place only the last counts. -/
def dynamic (f : Filter) : List Directive :=
  keepLast (f.directives.filter fun d => d.IsDynamic)
where
  keepLast : List Directive → List Directive
    | [] => []
    | d :: rest => if ∃ e ∈ rest, d.SamePlace e then keepLast rest else d :: keepLast rest

/-- What passes within a span, if a dynamic directive concerns it. -/
def inner? (f : Filter) (path : String) (span : Span) : Option Threshold :=
  match f.dynamic.filter fun d => d.ConcernsSpan path span with
  | [] => none
  | concerned =>
      some (.greatest ((concerned.filter fun d => d.FieldPasses span).map Directive.threshold))

/-- The threshold beyond which nothing is looked at. Where values count, all spans
have to be. -/
def reach (f : Filter) : Threshold :=
  if ∃ d ∈ f.directives, ∃ field ∈ d.field, field.2 ≠ .present then some .trace
  else .greatest (f.directives.map Directive.threshold)

/-! ### What passes -/

/-- The spans around an event that have passed, from the outermost one on, and the
thresholds within them. -/
structure Scope where
  spans : List Span
  thresholds : List Threshold
deriving DecidableEq, Repr

def Scope.Admits (s : Scope) (level : Level) : Prop := ∃ t ∈ s.thresholds, t.Admits level

instance (s : Scope) (level : Level) : Decidable (s.Admits level) :=
  inferInstanceAs (Decidable (∃ t ∈ s.thresholds, _))

/-- The scope within one more span, which may not pass. -/
def enter (f : Filter) (path : String) (s : Scope) (span : Span) : Scope :=
  let inner := f.inner? path span
  if f.reach.Admits span.level ∧
      (inner.isSome ∨ s.Admits span.level ∨ (f.threshold path none).Admits span.level) then
    ⟨s.spans ++ [span], s.thresholds ++ inner.toList⟩
  else s

/-- The scope within some spans. -/
def scope (f : Filter) (path : String) (spans : List Span) : Scope :=
  spans.foldl (f.enter path) ⟨[], []⟩

/-- Whether an event with some fields passes within a scope. -/
def Admits (f : Filter) (path : String) (fields : List String) (s : Scope) (level : Level) :
    Prop :=
  s.Admits level ∨ (f.threshold path (some fields)).Admits level

instance (f : Filter) (path : String) (fields : List String) (s : Scope) (level : Level) :
    Decidable (f.Admits path fields s level) := inferInstanceAs (Decidable (_ ∨ _))

end Filter

end Cadence.Log
