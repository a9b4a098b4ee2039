import Blitter.Data.Record
import Blitter.Toml.Document

/-!
# Reading and writing TOML

A `Codec` is what is asked of the format: it reads a text for a value, and it writes a record as a
text. Files are kept by `Codec.standard`. It writes one line for each field that holds anything,
looks at all numbers before it writes a string, and cannot write every string.
-/

namespace Blitter.Toml

open Data

/-- Why a record cannot be written. -/
inductive WriteFault where
  /-- A number is too large for the format, which has room for integers below `2 ^ 63` only. -/
  | numberTooLarge
  /-- A string has a longer run of quotes than can be written. -/
  | runTooLong
  deriving DecidableEq, Repr

/-- A **reader and a writer** of the format. -/
structure Codec where
  parse : String → Option Value
  write : Record → Except WriteFault String

/-! ### Writing -/

/-- The format has **room for the item**. -/
def HasRoom : Item → Prop
  | .string _ => True
  | .integer n => n < 0x8000000000000000

instance : DecidablePred HasRoom
  | .string _ => inferInstanceAs (Decidable True)
  | .integer n => inferInstanceAs (Decidable (n < 0x8000000000000000))

/-- The text of an item, with its quotes by `quote` if it is a string. -/
def itemText? (quote : List Char → Option (List Char)) : Item → Option (List Char)
  | .string s => quote s.toList
  | .integer n => some (Nat.toDigits 10 n)

/-- The line of a field. -/
def fieldLine (name : String) (text : List Char) : List Char :=
  name.toList ++ ' ' :: '=' :: ' ' :: text ++ ['\n']

/-- The lines of fields, one after the other. -/
def fieldLines? (quote : List Char → Option (List Char)) :
    List (String × Item) → Option (List Char)
  | [] => some []
  | (name, item) :: fields => do
    let text ← itemText? quote item
    let lines ← fieldLines? quote fields
    return fieldLine name text ++ lines

/-- **Writes a record**, with its strings between quotes as `quote` puts them. Numbers are looked
at before strings. -/
def writeRecord (quote : List Char → Option (List Char)) (r : Record) : Except WriteFault String :=
  if ∀ field ∈ r.present, HasRoom field.2 then
    match fieldLines? quote r.present with
    | some lines => .ok (String.ofList lines)
    | none => .error .runTooLong
  else .error .numberTooLarge

/-- The codec that puts strings between quotes by `quote`. -/
def Codec.quoting (quote : List Char → Option (List Char)) : Codec where
  parse := Document.parse
  write := writeRecord quote

/-- The codec that **files are kept with**. -/
def Codec.standard : Codec := .quoting Quotation.write?

theorem Codec.parse_standard : Codec.standard.parse = Document.parse := rfl

end Blitter.Toml
