import Blitter.Toml.Node
import Blitter.Toml.Quotation
import Blitter.Toml.Scalar

/-!
# TOML documents

A document is a sequence of lines: keys with their values, headers of tables and of items of
arrays of tables, comments and empty lines. `Document.parse` reads it into one table, or refuses
it. Arrays and tables inside values, and the parts of a key, are nested less than eighty deep.
-/

namespace Blitter.Toml.Document

open Data

/-- Nesting of values and parts of keys are fewer than this. -/
def depthLimit : Nat := 80

/-! ### Keys -/

/-- A character of a key without quotes. -/
def isBare (c : Char) : Bool := c.isAlphanum || c == '_' || c == '-'

/-- One part of a key, and the text after it. -/
def keyPart : List Char → Option (String × List Char)
  | '"' :: s => (readBasic s).map fun (cs, s) => (String.ofList cs, s)
  | '\'' :: s => (readLiteral s).map fun (cs, s) => (String.ofList cs, s)
  | s =>
    let bare := s.takeWhile isBare
    if bare.isEmpty then none else some (String.ofList bare, s.dropWhile isBare)

/-- The parts of a dotted key, and the text after it. Each part takes some characters, so that
`fuel` need not exceed the length of the text. -/
def keyParts : (fuel : Nat) → List Char → Option (List String × List Char)
  | 0, _ => none
  | fuel + 1, s => do
    let (part, s) ← keyPart (skipSpaces s)
    match skipSpaces s with
    | '.' :: s => do
      let (parts, s) ← keyParts fuel s
      return (part :: parts, s)
    | s => return ([part], s)

/-- A key, split into the path that leads to its table and its last part, and the text after
it. -/
def key (s : List Char) : Option ((List String × String) × List Char) := do
  let (parts, s) ← keyParts s.length s
  if parts.length < depthLimit then
    let last ← parts.getLast?
    return ((parts.dropLast, last), s)
  else none

/-! ### Values -/

mutual

/-- A value, and the text after it. Every second step takes a character, so that `fuel` need not
exceed twice the length of the text. -/
def value (fuel depth : Nat) (s : List Char) : Option (Value × List Char) :=
  match fuel with
  | 0 => none
  | fuel + 1 =>
    match s with
    | '[' :: s =>
      if depth + 1 < depthLimit then
        (items fuel (depth + 1) s).map fun (vs, s) => (.array vs, s)
      else none
    | '\x7b' :: s =>
      if depth + 1 < depthLimit then
        match skipSpaces s with
        | '\x7d' :: s => some (.table [], s)
        | s => (pairs fuel (depth + 1) [] s).map fun (es, s) => (.table (entryValues es), s)
      else none
    | '"' :: _ | '\'' :: _ => (readString s).map fun (cs, s) => (.string (String.ofList cs), s)
    | s => Scalar.read s

/-- The items of an array up to its closing bracket, and the text after it. -/
def items (fuel depth : Nat) (s : List Char) : Option (List Value × List Char) :=
  match fuel with
  | 0 => none
  | fuel + 1 =>
    match skipGap false s with
    | ']' :: s => some ([], s)
    | s => do
      let (v, s) ← value fuel depth s
      match skipGap false s with
      | ']' :: s => return ([v], s)
      | ',' :: s => do
        let (vs, s) ← items fuel depth s
        return (v :: vs, s)
      | _ => none

/-- The keys of an inline table from the next one up to its closing brace, after those in `es`,
and the text after it. -/
def pairs (fuel depth : Nat) (es : Entries) (s : List Char) : Option (Entries × List Char) :=
  match fuel with
  | 0 => none
  | fuel + 1 => do
    let ((path, last), s) ← key s
    let s ← Scalar.expect? '=' s
    let (v, s) ← value fuel depth (skipSpaces s)
    let es ← es.extend .header path last v
    match skipSpaces s with
    | '\x7d' :: s => return (es, s)
    | ',' :: s => pairs fuel depth es s
    | _ => none

end

/-! ### Lines -/

/-- A document **read so far**: its tables, and the path of the table that is open. -/
structure Draft where
  entries : Entries
  path : List String

/-- A key with its value on a line of its own. -/
def keyLine (d : Draft) (s : List Char) : Option (Draft × List Char) := do
  let ((path, last), s) ← key s
  let s ← Scalar.expect? '=' s
  let s := skipSpaces s
  let (v, s) ← value (2 * s.length + 2) 0 s
  let s ← lineEnd? s
  let entries ←
    d.entries.within .implied (fun here es => es.extend here path last v) .header d.path
  return ({ d with entries }, s)

/-- A header, after its opening brackets: it is closed by `closing` and opens a table by
`change`. -/
def headerLine (d : Draft) (closing : List Char)
    (change : String → Origin → Entries → Option Entries) (s : List Char) :
    Option (Draft × List Char) := do
  let ((path, last), s) ← key s
  if closing.isPrefixOf s then
    let s ← lineEnd? (s.drop closing.length)
    let entries ← d.entries.within .implied (change last) .header path
    return ({ entries, path := path ++ [last] }, s)
  else none

/-- The lines of a document. Every line takes some characters, so that `fuel` need not exceed the
length of the text by more than one. -/
def lines : (fuel : Nat) → Draft → List Char → Option Draft
  | 0, _, _ => none
  | fuel + 1, d, s =>
    match skipSpaces s with
    | [] => some d
    | '#' :: s => do
      let s ← lineEnd? ('#' :: s)
      lines fuel d s
    | '[' :: '[' :: s => do
      let (d, s) ← headerLine d [']', ']'] Entries.openItem s
      lines fuel d s
    | '[' :: s => do
      let (d, s) ← headerLine d [']'] Entries.openSection s
      lines fuel d s
    | s =>
      match newline? s with
      | some s => lines fuel d s
      | none => do
        let (d, s) ← keyLine d s
        lines fuel d s

/-- The text after a byte order mark. -/
def skipMark : List Char → List Char
  | '\ufeff' :: s => s
  | s => s

/-- **Reads a document** into a table. -/
def parse (text : String) : Option Value :=
  let s := skipMark text.toList
  (lines (s.length + 1) ⟨[], []⟩ s).map fun d => .table (entryValues d.entries)

end Blitter.Toml.Document
