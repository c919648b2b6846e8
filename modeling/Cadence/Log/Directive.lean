import Cadence.Log.TextPattern
import Cadence.Log.Threshold
import Cadence.Text.Basic

/-! # Directives of log filters

A directive sets the threshold for what it concerns: the modules whose path begins
with a target, and the spans with a name and with a field, of which each may be
left out. It is written `target[span{field=value}]=threshold`. -/

namespace Cadence.Log

/-- Why a directive is not understood. -/
inductive DirectiveFault
  | malformed
  /-- A field has to match something that is no pattern. -/
  | field (fault : TextPattern.Fault)
  | unknownThreshold
deriving DecidableEq, Repr

def DirectiveFault.message : DirectiveFault → String
  | malformed => "invalid filter directive"
  | field .malformed => "invalid field filter: error building NFA"
  | field .wordBorder => "invalid field filter: unsupported regex feature for DFAs: cannot "
      ++ "build DFAs for regexes with Unicode word boundaries; switch to ASCII word boundaries, "
      ++ "or heuristically enable Unicode word boundaries or use a different regex engine"
  | unknownThreshold => "error parsing level filter: expected one of \"off\", \"error\", "
      ++ "\"warn\", \"info\", \"debug\", \"trace\", or a number 0-5"

/-- What a field has to hold. -/
inductive FieldTest
  /-- Anything. -/
  | present
  | flag (b : Bool)
  | integer (n : Int)
  /-- A number with a fraction, or a pattern of texts. -/
  | other (text : String)
deriving DecidableEq, Repr

/-- What passes, and where. -/
structure Directive where
  target : Option String
  span : Option String
  field : Option (String × FieldTest)
  threshold : Threshold
deriving DecidableEq, Repr

namespace FieldTest

/-- The integer that a text of at most 64 bits denotes. -/
def integer? (cs : List Char) : Option Int :=
  match cs with
  | '-' :: c :: rest =>
      if c.isDigit then
        (Threshold.number? (c :: rest)).bind fun n =>
          if n ≤ 9223372036854775808 then some (-n) else none
      else none
  | cs => (Threshold.number? cs).bind fun n => if n < 18446744073709551616 then some n else none

/-- Whether a text is a number with a fraction or an exponent, without its sign. -/
def isFraction (cs : List Char) : Bool :=
  let fraction := cs.dropWhile Char.isDigit
  let exponent :=
    if fraction.head? = some '.' then fraction.tail.dropWhile Char.isDigit else fraction
  let hasDigits := (cs.takeWhile fun c => c.isDigit || c = '.').any Char.isDigit
  match exponent with
  | [] => hasDigits
  | c :: rest =>
      let digits := if rest.head? = some '+' ∨ rest.head? = some '-' then rest.tail else rest
      hasDigits && (c = 'e' || c = 'E') && !digits.isEmpty && digits.all Char.isDigit

/-- Whether a text is a number that is no integer. -/
def isReal (cs : List Char) : Bool :=
  let cs := if cs.head? = some '+' ∨ cs.head? = some '-' then cs.tail else cs
  isFraction cs || ["inf", "infinity", "nan"].contains (String.ofList (cs.map Char.toLower))

/-- Reads what stands behind the name of a field. -/
def parse (cs : List Char) : Except DirectiveFault FieldTest :=
  if cs = ['t', 'r', 'u', 'e'] then .ok (.flag true)
  else if cs = ['f', 'a', 'l', 's', 'e'] then .ok (.flag false)
  else
    match integer? cs with
    | some n => .ok (.integer n)
    | none =>
        match if isReal cs then none else TextPattern.fault? cs with
        | some fault => .error (.field fault)
        | none => .ok (.other (String.ofList cs))

/-- Whether a value passes. Numbers with a fraction and patterns are no matter of
integers and flags. -/
def Passes (test : FieldTest) (v : Value) : Prop :=
  match test, v with
  | present, _ => True
  | flag b, .flag c => b = c
  | integer n, .integer m => n = m
  | integer n, .natural m => n = m
  | _, _ => False

instance (test : FieldTest) (v : Value) : Decidable (test.Passes v) := by
  unfold Passes
  split <;> infer_instance

end FieldTest

namespace Directive

/-! ### Reading -/

/-- A text without the blanks at its ends. -/
def trimmed (cs : List Char) : List Char :=
  ((cs.dropWhile Text.isBlank).reverse.dropWhile Text.isBlank).reverse

def byteLength (cs : List Char) : Nat := cs.foldl (fun n c => n + c.utf8Size) 0

/-- What is left of a text behind its first bytes. -/
def dropBytes : Nat → List Char → List Char
  | 0, cs => cs
  | _, [] => []
  | n, c :: cs => dropBytes (n - c.utf8Size) cs

/-- The first bytes of a text. -/
def takeBytes : Nat → List Char → List Char
  | 0, _ => []
  | _, [] => []
  | n, c :: cs => c :: takeBytes (n - c.utf8Size) cs

/-- The text of a directive. The parts of a directive are found in it without the
blanks at its ends, and cut out of it, by their bytes, as it stands. -/
structure Source where
  text : List Char
  bare : List Char
deriving DecidableEq, Repr

namespace Source

/-- The part that begins where `first` is left of the bare text. -/
def behind (s : Source) (first : List Char) : List Char :=
  dropBytes (byteLength s.bare - byteLength first) s.text

/-- The part that begins where `first` is left of the bare text and ends where
`last` is. -/
def between (s : Source) (first last : List Char) : List Char :=
  takeBytes (byteLength first - byteLength last) (s.behind first)

end Source

/-- Whether a directive may begin with a character. -/
def mayBegin (c : Char) : Bool :=
  c = '-' || c = ':' || c = '_' || Text.isAlphabetic c || Text.isNumeric c

/-- A directive without a threshold lets everything pass. -/
def usual : Threshold := some .trace

/-- Reads a threshold behind an equals sign. -/
def readThreshold (s : Source) (d : Directive) (rest : List Char) :
    Except DirectiveFault Directive :=
  if (s.behind rest).isEmpty then .ok d
  else
    match Threshold.ofChars? (s.behind rest) with
    | some threshold => .ok { d with threshold }
    | none => .error .unknownThreshold

/-- Reads what follows a closing bracket. -/
def readEnd (s : Source) (d : Directive) (rest : List Char) : Except DirectiveFault Directive :=
  match rest with
  | [] => .ok d
  | '=' :: rest => readThreshold s d rest
  | _ => .error .malformed

/-- Reads a field, and what it has to hold. -/
def readField (cs : List Char) : Except DirectiveFault (String × FieldTest) :=
  match cs.splitOnP (· = '=') with
  | name :: value :: _ => do
      let test ← FieldTest.parse value
      return (String.ofList name, test)
  | _ => .ok (String.ofList cs, .present)

/-- Reads a span behind its opening bracket. -/
def readSpan (s : Source) (target : Option String) (rest : List Char) :
    Except DirectiveFault Directive :=
  let stop := rest.dropWhile fun c => c ≠ ']' && c ≠ '\x7b'
  let name := s.between rest stop
  match stop with
  | [] => .error .malformed
  | ']' :: rest => readEnd s ⟨target, some (String.ofList name), none, usual⟩ rest
  | _ :: rest =>
      let stop := rest.dropWhile (· ≠ '\x7d')
      let text := s.between rest stop
      if stop.isEmpty ∨ text.isEmpty then .error .malformed
      else do
        let field ← readField text
        match stop.tail with
        | ']' :: rest =>
            let span := if name.isEmpty then none else some (String.ofList name)
            readEnd s ⟨target, span, some field, usual⟩ rest
        | _ => .error .malformed

/-- Reads a directive, which holds no comma. A text alone is a threshold, if it
can be one, or a target. -/
def parse (text : String) : Except DirectiveFault Directive :=
  let s : Source := ⟨text.toList, trimmed text.toList⟩
  match s.bare with
  | '[' :: rest => readSpan s none rest
  | c :: _ =>
      if !mayBegin c then .error .malformed
      else
        let stop := s.bare.dropWhile fun c => c ≠ '=' && c ≠ '['
        let target := some (String.ofList (s.between s.bare stop))
        match stop with
        | [] =>
            match Threshold.ofChars? s.text with
            | some threshold => .ok ⟨none, none, none, threshold⟩
            | none => .ok ⟨some text, none, none, usual⟩
        | '[' :: rest => readSpan s target rest
        | _ :: rest => readThreshold s ⟨target, none, none, usual⟩ rest
  | [] => .error .malformed

/-! ### What a directive concerns -/

/-- Whether a directive looks at spans, by their name or by a field. -/
def IsDynamic (d : Directive) : Prop := d.span.isSome ∨ d.field.isSome

instance (d : Directive) : Decidable d.IsDynamic := inferInstanceAs (Decidable (_ ∨ _))

/-- Whether a directive can be judged without looking at values and names of spans. -/
def IsStatic (d : Directive) : Prop := d.span = none ∧ ∀ f ∈ d.field, f.2 = .present

instance (d : Directive) : Decidable d.IsStatic := inferInstanceAs (Decidable (_ ∧ _))

def fieldName (d : Directive) : Option String := d.field.map (·.1)

/-- Whether a directive concerns the module of a path. -/
def ConcernsPath (d : Directive) (path : String) : Prop :=
  match d.target with
  | none => True
  | some target => target.toList <+: path.toList

instance (d : Directive) (path : String) : Decidable (d.ConcernsPath path) := by
  unfold ConcernsPath
  split <;> infer_instance

/-- Whether a directive concerns a span, whatever its field holds. -/
def ConcernsSpan (d : Directive) (path : String) (span : Span) : Prop :=
  d.ConcernsPath path ∧ (∀ name ∈ d.span, name = span.name) ∧
    ∀ name ∈ d.fieldName, name ∈ span.values.map (·.1)

instance (d : Directive) (path : String) (span : Span) : Decidable (d.ConcernsSpan path span) :=
  inferInstanceAs (Decidable (_ ∧ _ ∧ _))

/-- Whether a span holds what a directive asks for. -/
def FieldPasses (d : Directive) (span : Span) : Prop :=
  ∀ f ∈ d.field, ∃ v ∈ span.values, v.1 = f.1 ∧ f.2.Passes v.2

instance (d : Directive) (span : Span) : Decidable (d.FieldPasses span) :=
  inferInstanceAs (Decidable (∀ f ∈ d.field, ∃ v ∈ span.values, v.1 = f.1 ∧ f.2.Passes v.2))

/-- How specific a directive is: by the length of its target, then by whether it
names a field. -/
def weight (d : Directive) : Nat :=
  2 * d.target.elim 0 (fun target => target.utf8ByteSize + 1) + if d.field.isSome then 1 else 0

/-- Whether another directive is at least as specific. Of equally specific ones
the names of the fields decide. -/
def isCoveredBy (d e : Directive) : Bool :=
  d.weight < e.weight ||
    (d.weight = e.weight && d.fieldName.getD "" ≤ e.fieldName.getD "")

/-- Whether two directives concern the same. -/
def SamePlace (d e : Directive) : Prop :=
  d.target = e.target ∧ d.span = e.span ∧ d.field = e.field

instance (d e : Directive) : Decidable (d.SamePlace e) := inferInstanceAs (Decidable (_ ∧ _ ∧ _))

end Directive

end Cadence.Log
