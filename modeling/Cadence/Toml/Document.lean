import Cadence.Toml.Entries
import Cadence.Toml.Scalar
import Cadence.Toml.Text

/-! # TOML documents

Reads a document line by line: entries, headers, comments and blank lines. A
document that breaks a rule of the format is refused as a whole, and so is one
whose keys are too long or whose values are nested too deeply. -/

namespace Cadence.Toml

/-- What is left behind blanks of one line. -/
def skipBlanks (cs : List Char) : List Char := cs.dropWhile fun c => c = ' ' || c = '\t'

/-- What is left behind a comment, if there is one. A carriage return ends it only
together with a line feed. -/
def skipComment? (cs : List Char) : Option (List Char) :=
  match cs with
  | '#' :: rest =>
      let line := rest.takeWhile (· ≠ '\n')
      let behind := rest.dropWhile (· ≠ '\n')
      let line := if line.getLast? = some '\r' ∧ behind ≠ [] then line.dropLast else line
      if line.any isControl then none else some behind
  | rest => some rest

/-- What is left behind blanks, comments and line breaks. -/
def skipLines? : Nat → List Char → Option (List Char)
  | 0, _ => none
  | fuel + 1, cs => do
      let rest ← skipComment? (skipBlanks cs)
      match rest with
      | '\n' :: more => skipLines? fuel more
      | '\r' :: '\n' :: more => skipLines? fuel more
      | _ => return rest

def isBareKeyChar (c : Char) : Bool := c.isAlphanum || c = '-' || c = '_'

/-- One name of a key. -/
def name? (cs : List Char) : Option (String × List Char) :=
  match cs with
  | '"' :: rest => (basicText rest).map fun r => (String.ofList r.1, r.2)
  | '\'' :: rest => (literalText rest).map fun r => (String.ofList r.1, r.2)
  | _ =>
      if (cs.takeWhile isBareKeyChar).isEmpty then none
      else some (String.ofList (cs.takeWhile isBareKeyChar), cs.dropWhile isBareKeyChar)

/-- The most names of a key, and the most lists and records around a value. -/
def deepest : Nat := 80

/-- Names with dots between them. -/
def names? : Nat → List Char → Option (List String × List Char)
  | 0, _ => none
  | fuel + 1, cs => do
      let (name, rest) ← name? (skipBlanks cs)
      match skipBlanks rest with
      | '.' :: more => do
          let (names, rest) ← names? fuel more
          return (name :: names, rest)
      | rest => return ([name], rest)

/-- A key, and what is left behind the blanks after it. -/
def key? (cs : List Char) : Option (List String × List Char) := do
  let (names, rest) ← names? (cs.length + 1) cs
  if names.length ≤ deepest then return (names, rest) else none

mutual

/-- A value at the front, and the rest. At most `depth` lists and records may still
be opened. -/
def value? (depth : Nat) : Nat → List Char → Option (Setting × List Char)
  | 0, _ => none
  | fuel + 1, cs =>
      match depth, cs with
      | 0, '[' :: _ | 0, '\x7b' :: _ => none
      | depth + 1, '[' :: rest => (items? depth fuel rest).map fun r => (.list r.1, r.2)
      | depth + 1, '\x7b' :: rest =>
          (inline? depth fuel [] rest).map fun r => (.record (settings r.1), r.2)
      | _, '"' :: _ | _, '\'' :: _ =>
          (quotedText? cs).map fun r => (.text (String.ofList r.1), r.2)
      | _, _ => do
          let (text, rest) := scalarText cs
          let v ← scalar? text
          return (v, rest)

/-- The items of a list, from behind its opening bracket on. -/
def items? (depth : Nat) : Nat → List Char → Option (List Setting × List Char)
  | 0, _ => none
  | fuel + 1, cs => do
      let rest ← skipLines? (cs.length + 1) cs
      match rest with
      | ']' :: more => return ([], more)
      | _ => do
          let (item, rest) ← value? depth fuel rest
          let rest ← skipLines? (rest.length + 1) rest
          match rest with
          | ']' :: more => return ([item], more)
          | ',' :: more => do
              let (items, rest) ← items? depth fuel more
              return (item :: items, rest)
          | _ => none

/-- The entries of a record, from behind its opening brace on. Lines may end around
its keys and values. -/
def inline? (depth : Nat) : Nat → Entries → List Char → Option (Entries × List Char)
  | 0, _, _ => none
  | fuel + 1, entries, cs => do
      let rest ← skipLines? (cs.length + 1) cs
      match rest with
      | '\x7d' :: more => return (entries, more)
      | _ => do
          let (key, rest) ← key? rest
          let rest ← skipLines? (rest.length + 1) rest
          match rest with
          | '=' :: more => do
              let rest ← skipLines? (more.length + 1) more
              let (v, rest) ← value? depth fuel rest
              let entries ← entries.insert? key v
              let rest ← skipLines? (rest.length + 1) rest
              match rest with
              | '\x7d' :: more => return (entries, more)
              | ',' :: more => inline? depth fuel entries more
              | _ => none
          | _ => none

end

/-- What is left behind the end of a line. -/
def endLine? (cs : List Char) : Option (List Char) := do
  match ← skipComment? (skipBlanks cs) with
  | [] => some []
  | '\n' :: rest => some rest
  | '\r' :: '\n' :: rest => some rest
  | _ => none

/-- A document being read: its tables, and the path to the open one. -/
structure Draft where
  entries : Entries
  path : List String

namespace Draft

/-- Adds an entry to the open table. -/
def insert? (d : Draft) (key : List String) (v : Setting) : Option Draft := do
  let entries ← Entries.descend? .implied (Entries.insert? key v) d.path d.entries
  return { d with entries }

/-- Reads a header behind its brackets: `close` are the brackets that end it. -/
def header? (d : Draft) (change : List String → Entries → Option Entries) (close : List Char)
    (cs : List Char) : Option (Draft × List Char) := do
  let (path, rest) ← key? cs
  let entries ← change path d.entries
  if rest.take close.length = close then
    let rest ← endLine? (rest.drop close.length)
    return (⟨entries, path⟩, rest)
  else none

/-- Reads one entry, header or empty line. -/
def line? (d : Draft) (cs : List Char) : Option (Draft × List Char) :=
  match skipBlanks cs with
  | [] | '#' :: _ | '\n' :: _ | '\r' :: _ => (endLine? cs).map (d, ·)
  | '[' :: '[' :: rest => d.header? Entries.openElement? [']', ']'] rest
  | '[' :: rest => d.header? Entries.openTable? [']'] rest
  | cs => do
      let (key, rest) ← key? cs
      match rest with
      | '=' :: more => do
          let (v, rest) ← value? deepest (cs.length + 1) (skipBlanks more)
          let d ← d.insert? key v
          let rest ← endLine? rest
          return (d, rest)
      | _ => none

/-- Reads all lines. -/
def lines? (d : Draft) : Nat → List Char → Option Draft
  | _, [] => some d
  | 0, _ => none
  | fuel + 1, cs => do
      let (d, rest) ← d.line? cs
      d.lines? fuel rest

end Draft

/-- The settings of a document. -/
def document? (text : String) : Option (List (String × Setting)) := do
  let cs := text.toList
  let cs := if cs.head? = some '\ufeff' then cs.tail else cs
  let d ← Draft.lines? ⟨[], []⟩ (cs.length + 1) cs
  return settings d.entries

end Cadence.Toml
