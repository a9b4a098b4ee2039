/-!
# Structured data

The values that documents are made of. A document format reads its text into a `Value`; what the
value stands for is found out by the readers of `Blitter.Data.Reader`, which do not care about the
format.
-/

namespace Blitter.Data

/-- A **value** of a document. -/
inductive Value where
  | null
  | boolean (b : Bool)
  | integer (n : Int)
  /-- A number with a fraction or an exponent, as it was written. -/
  | float (text : String)
  | string (s : String)
  /-- A date or a time of day, as it was written. -/
  | datetime (text : String)
  | array (items : List Value)
  | table (entries : List (String × Value))
  deriving Repr, Inhabited

end Blitter.Data
