import Cadence.Text.Basic

/-! # Named choices

A type with a few members, each with a name of its own. A name is read back by
looking through the members. -/

namespace Cadence

/-- A type of named alternatives. -/
class Choice (α : Type) where
  /-- What the alternatives are, for messages. -/
  what : String
  all : List α
  name : α → String

namespace Choice

variable {α : Type} [Choice α]

/-- The member of a name. -/
def ofName? (s : String) : Option α := all.find? fun x : α => name x = s

/-- The refusal of a name that no member has. -/
def unknownText (α : Type) [Choice α] (s : String) : String :=
  let names := "/".intercalate (all.map fun x : α => name x)
  s!"unknown {what α} {Text.quoted s} (expected {names})"

end Choice

end Cadence
