import Blitter.Data.Value

/-!
# Reading structured data

A reader takes a value of a document for something of the domain, or refuses it. Records are read
from tables by the names of their fields, and from arrays by the places of their fields. Keys that
no field has are passed over.

Formats differ in two small points, which a `Dialect` settles.
-/

namespace Blitter.Data

/-- What formats **differ** in. -/
structure Dialect where
  /-- Items beyond the last field of a record that is written as an array are passed over. -/
  surplusItems : Bool
  /-- What may stand beside the name of an alternative that holds nothing. -/
  besideName : Value → Bool

/-- A reader for `α`. -/
abbrev Reader (α : Type) := Dialect → Value → Option α

namespace Reader

def boolean : Reader Bool
  | _, .boolean b => some b
  | _, _ => none

def string : Reader String
  | _, .string s => some s
  | _, _ => none

/-- A natural number below a bound. -/
def natBelow (bound : Nat) : Reader Nat
  | _, .integer n => if 0 ≤ n ∧ n < bound then some n.toNat else none
  | _, _ => none

def word8 : Reader UInt8 := fun d v => (natBelow 0x100 d v).map UInt8.ofNat

def word32 : Reader UInt32 := fun d v => (natBelow 0x100000000 d v).map UInt32.ofNat

def word64 : Reader UInt64 := fun d v => (natBelow 0x10000000000000000 d v).map UInt64.ofNat

/-- Something that may be absent. -/
def optional {α : Type} (read : Reader α) : Reader (Option α)
  | _, .null => some none
  | d, v => (read d v).map some

/-- A list of any length. -/
def list {α : Type} (read : Reader α) : Reader (List α)
  | d, .array items => items.mapM (read d)
  | _, _ => none

/-- Three items. -/
def triple {α : Type} (read : Reader α) : Reader (Vector α 3)
  | d, .array (a :: b :: c :: rest) =>
    if rest.isEmpty || d.surplusItems then do
      let a ← read d a
      let b ← read d b
      let c ← read d c
      return #v[a, b, c]
    else none
  | _, _ => none

/-- One of the given alternatives, by its name. -/
def oneOf {α : Type} (alternatives : List α) (name : α → String) : Reader α
  | _, .string s => alternatives.find? fun a => name a == s
  | d, .table [(key, beside)] =>
    if d.besideName beside then alternatives.find? fun a => name a == key else none
  | _, _ => none

end Reader

/-- The fields of a record: the value at a place or under a name. -/
abbrev Fields := Nat → String → Option Value

/-- The fields of a value that is taken for a record of `count` fields. -/
def Value.fields? (d : Dialect) (count : Nat) : Value → Option Fields
  | .table entries => some fun _ name => entries.lookup name
  | .array items =>
    if items.length ≤ count ∨ d.surplusItems then some fun place _ => items[place]? else none
  | _ => none

namespace Fields

variable {α : Type}

/-- A field that has to be there. -/
def required (f : Fields) (d : Dialect) (place : Nat) (name : String) (read : Reader α) :
    Option α :=
  (f place name).bind (read d)

/-- A field that has a value when it is not there. -/
def withDefault (f : Fields) (d : Dialect) (place : Nat) (name : String) (read : Reader α)
    (default : α) : Option α :=
  match f place name with
  | some v => read d v
  | none => some default

end Fields

end Blitter.Data
