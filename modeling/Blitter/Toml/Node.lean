import Blitter.Data.Value

/-!
# Tables under construction

A TOML document builds its tables piece by piece: by headers, by dotted keys, and by the items of
arrays of tables. What may still be added to a table depends on how it came about, so that a
`Node` remembers it. `extend` adds one key to one table; it fails where TOML forbids to define
something twice.
-/

namespace Blitter.Toml

open Data

/-- How a table **came about**. -/
inductive Origin where
  /-- By a header of its own. -/
  | header
  /-- As part of the header of a table inside it. -/
  | implied
  /-- As part of a dotted key. -/
  | dotted
  deriving DecidableEq, Repr

/-- What stands under a key. -/
inductive Node where
  /-- A value that is complete. -/
  | leaf (v : Value)
  | section (origin : Origin) (entries : List (String × Node))
  /-- An array of tables, the last of which is open. -/
  | sections (items : List (List (String × Node)))
  deriving Inhabited

/-- The keys of a table, in order. -/
abbrev Entries := List (String × Node)

mutual

/-- The value of a node. -/
def Node.toValue : Node → Value
  | .leaf v => v
  | .section _ entries => .table (entryValues entries)
  | .sections items => .array (itemValues items)

/-- The values of the keys of a table. -/
def entryValues : List (String × Node) → List (String × Value)
  | [] => []
  | (key, node) :: entries => (key, node.toValue) :: entryValues entries

/-- The values of the items of an array of tables. -/
def itemValues : List (List (String × Node)) → List Value
  | [] => []
  | entries :: items => .table (entryValues entries) :: itemValues items

end

namespace Entries

/-- The node under a key. -/
def find? (es : Entries) (key : String) : Option Node := es.lookup key

/-- Puts a node under a key, in place of the one there. -/
def put (es : Entries) (key : String) (node : Node) : Entries :=
  if es.any fun e => e.1 == key then es.map fun e => if e.1 == key then (key, node) else e
  else es ++ [(key, node)]

/-- Changes the table at the end of a path by `change`, which is told how that table came about.
Tables that are missing on the way come about by `way`; a dotted key does not lead through a
table that has a header of its own. -/
def within (way : Origin) (change : Origin → Entries → Option Entries) :
    (here : Origin) → List String → Entries → Option Entries
  | here, [], es => change here es
  | _, key :: path, es =>
    let changed : Option Node := match es.find? key with
      | none => (within way change way path []).map (Node.section way)
      | some (.leaf _) => none
      | some (.section origin sub) =>
        if way = .dotted ∧ origin = .header then none
        else (within way change origin path sub).map (Node.section origin)
      | some (.sections items) =>
        (items.getLast?.bind (within way change .header path)).map fun last =>
          .sections (items.dropLast ++ [last])
    changed.map (es.put key)

/-- Puts a complete value under a key that is not there yet. A dotted key ends in a table that
came about by dotted keys, and any other key in one that did not. -/
def define (isDotted : Bool) (key : String) (v : Value) (here : Origin) (es : Entries) :
    Option Entries :=
  if (here == .dotted) != isDotted then none
  else if (es.find? key).isSome then none
  else some (es ++ [(key, .leaf v)])

/-- **Adds a key** with its value to a table that came about by `here`. -/
def extend (es : Entries) (here : Origin) (path : List String) (key : String) (v : Value) :
    Option Entries :=
  within .dotted (define (!path.isEmpty) key v) here path es

/-- Opens the table of a header: a new one, or one that came about only as part of longer
headers. -/
def openSection (key : String) (_ : Origin) (es : Entries) : Option Entries :=
  match es.find? key with
  | none => some (es ++ [(key, .section .header [])])
  | some (.section .implied sub) => some (es.put key (.section .header sub))
  | some _ => none

/-- Opens a new item of an array of tables. -/
def openItem (key : String) (_ : Origin) (es : Entries) : Option Entries :=
  match es.find? key with
  | none => some (es ++ [(key, .sections [[]])])
  | some (.sections items) => some (es.put key (.sections (items ++ [[]])))
  | some _ => none

end Entries

end Blitter.Toml
