import Blitter.Data.Value
import Blitter.Text.Hex
import Blitter.Toml.Lexeme

/-!
# Numbers, dates and words of TOML

Values that are written without quotes. Such a value is a run of letters, digits and a few signs,
and `Scalar.ofToken?` says what the whole run stands for. Integers have 64 bits. Of floats and
dates only the form is checked, and that a float is not too large to be finite.
-/

namespace Blitter.Toml.Scalar

open Data

/-- A character of an unquoted value. -/
def isToken (c : Char) : Bool :=
  c.isAlphanum || c == '+' || c == '-' || c == '_' || c == '.' || c == ':'

/-! ### Digits -/

/-- The digits of a run in which single underscores may stand between digits. -/
def separated? (isDigit : Char → Bool) : List Char → Option (List Char)
  | [] => none
  | [c] => if isDigit c then some [c] else none
  | c :: '_' :: cs => if isDigit c then (separated? isDigit cs).map (c :: ·) else none
  | c :: cs => if isDigit c then (separated? isDigit cs).map (c :: ·) else none

/-- The number written by decimal digits. -/
def decimal (digits : List Char) : Nat :=
  digits.foldl (fun n c => 10 * n + (c.toNat - 48)) 0

/-- The number written by digits of a base up to sixteen. -/
def inBase (base : Nat) (digits : List Char) : Nat :=
  digits.foldl (fun n c => base * n + (Text.hexValue? c).getD 0) 0

/-- Takes a sign off a number: whether it is a minus, and the rest. -/
def unsign : List Char → Bool × List Char
  | '+' :: cs => (false, cs)
  | '-' :: cs => (true, cs)
  | cs => (false, cs)

/-- The digits of a whole number without leading zeros. -/
def wholeDigits? (cs : List Char) : Option (List Char) :=
  match separated? Char.isDigit cs with
  | some ('0' :: _ :: _) => none
  | r => r

/-! ### Integers -/

/-- An integer that has 64 bits. -/
def fit? (n : Int) : Option Int :=
  if -0x8000000000000000 ≤ n ∧ n < 0x8000000000000000 then some n else none

/-- An integer in decimal digits, or without a sign in digits of base sixteen, eight or two. -/
def integer? : List Char → Option Int
  | '0' :: 'x' :: cs =>
    (separated? (fun c => (Text.hexValue? c).isSome) cs).bind fun ds => fit? (inBase 16 ds)
  | '0' :: 'o' :: cs =>
    (separated? (fun c => '0' ≤ c && c ≤ '7') cs).bind fun ds => fit? (inBase 8 ds)
  | '0' :: 'b' :: cs =>
    (separated? (fun c => c == '0' || c == '1') cs).bind fun ds => fit? (inBase 2 ds)
  | cs =>
    let (minus, digits) := unsign cs
    (wholeDigits? digits).bind fun ds =>
      fit? (if minus then -(decimal ds : Int) else decimal ds)

/-! ### Floats -/

/-- The number `digits · 10^exponent` is so large that its nearest double is infinite. -/
def isHuge (digits : Nat) (exponent : Int) : Bool :=
  let size : Int := (Nat.toDigits 10 digits).length
  if digits = 0 ∨ size + exponent < 300 then false
  else if 320 < size + exponent then true
  else
    let bound : Nat := 1 <<< 1024 - 1 <<< 970
    if 0 ≤ exponent then bound ≤ digits * Nat.pow 10 exponent.toNat
    else bound * Nat.pow 10 (-exponent).toNat ≤ digits

/-- The exponent of a float, after its mark. -/
def exponent? (cs : List Char) : Option Int :=
  let (minus, digits) := unsign cs
  (separated? Char.isDigit digits).map fun ds => if minus then -(decimal ds : Int) else decimal ds

/-- A mark of an exponent. -/
def isExponentMark (c : Char) : Bool := c == 'e' || c == 'E'

/-- Whole digits, the digits after the point and the exponent of a float that has a point or an
exponent or both. -/
def floatParts? (cs : List Char) : Option (List Char × List Char × Int) := do
  let before := cs.takeWhile fun c => !isExponentMark c
  let exponent ← match cs.dropWhile fun c => !isExponentMark c with
    | [] => some 0
    | _ :: es => exponent? es
  let whole ← wholeDigits? (before.takeWhile (· != '.'))
  match before.dropWhile (· != '.') with
  | [] => if before.length = cs.length then none else some (whole, [], exponent)
  | _ :: fs => do
    let fraction ← separated? Char.isDigit fs
    return (whole, fraction, exponent)

/-- The token is a float. -/
def isFloat (cs : List Char) : Bool :=
  let (minus, unsigned) := unsign cs
  unsigned == ['i', 'n', 'f'] || unsigned == ['n', 'a', 'n'] ||
    match floatParts? unsigned with
    | some (whole, fraction, exponent) =>
      minus || !isHuge (decimal (whole ++ fraction)) (exponent - fraction.length)
    | none => false

/-! ### Dates and times -/

/-- Exactly `n` digits, and the rest. -/
def digits? (n : Nat) (cs : List Char) : Option (Nat × List Char) :=
  let ds := cs.take n
  if ds.length = n ∧ ds.all Char.isDigit then some (decimal ds, cs.drop n) else none

/-- The rest after a given character. -/
def expect? (c : Char) : List Char → Option (List Char)
  | d :: cs => if d = c then some cs else none
  | [] => none

/-- The number of days in a month. -/
def daysIn (year month : Nat) : Nat :=
  if month = 2 then
    if year % 4 = 0 ∧ (year % 100 ≠ 0 ∨ year % 400 = 0) then 29 else 28
  else if month = 4 ∨ month = 6 ∨ month = 9 ∨ month = 11 then 30
  else 31

/-- The rest after a date. -/
def afterDate? (cs : List Char) : Option (List Char) := do
  let (year, cs) ← digits? 4 cs
  let cs ← expect? '-' cs
  let (month, cs) ← digits? 2 cs
  let cs ← expect? '-' cs
  let (day, cs) ← digits? 2 cs
  if 1 ≤ month ∧ month ≤ 12 ∧ 1 ≤ day ∧ day ≤ daysIn year month then some cs else none

/-- The rest after hours and minutes. -/
def afterMinutes? (cs : List Char) : Option (List Char) := do
  let (hour, cs) ← digits? 2 cs
  let cs ← expect? ':' cs
  let (minute, cs) ← digits? 2 cs
  if hour ≤ 23 ∧ minute ≤ 59 then some cs else none

/-- The rest after a time of day; a second of 60 is a leap second. -/
def afterTime? (cs : List Char) : Option (List Char) := do
  let cs ← afterMinutes? cs
  let cs ← expect? ':' cs
  let (second, cs) ← digits? 2 cs
  if 60 < second then none
  else
    match cs with
    | '.' :: fs =>
      if (fs.takeWhile Char.isDigit).isEmpty then none else some (fs.dropWhile Char.isDigit)
    | cs => some cs

/-- Nothing, or the distance from universal time, and nothing after it. -/
def isOffset : List Char → Bool
  | [] => true
  | [c] => c == 'Z' || c == 'z'
  | c :: cs => (c == '+' || c == '-') && afterMinutes? cs == some []

/-- The token is a date and a time, with what separates them taken away. -/
def isDateTime (date time : List Char) : Bool :=
  afterDate? date == some [] &&
    match afterTime? time with
    | some rest => isOffset rest
    | none => false

/-- The token is a date, a time of day, or both with a `T` between them. -/
def isDate (cs : List Char) : Bool :=
  afterTime? cs == some [] ||
    match afterDate? cs with
    | some [] => true
    | some (c :: time) => (c == 'T' || c == 't') && isDateTime (cs.take 10) time
    | none => false

/-! ### Tokens -/

/-- What a token stands for. -/
def ofToken? (cs : List Char) : Option Value :=
  if cs = "true".toList then some (.boolean true)
  else if cs = "false".toList then some (.boolean false)
  else if isDate cs then some (.datetime (String.ofList cs))
  else if isFloat cs then some (.float (String.ofList cs))
  else (integer? cs).map .integer

/-- An unquoted value, and the text after it. A blank may stand between a date and a time. -/
def read (s : List Char) : Option (Value × List Char) :=
  let token := s.takeWhile isToken
  let rest := s.dropWhile isToken
  match rest with
  | ' ' :: c :: after =>
    if afterDate? token == some [] && c.isDigit then
      let time := (c :: after).takeWhile isToken
      if isDateTime token time then
        some (.datetime (String.ofList (token ++ ' ' :: time)), (c :: after).dropWhile isToken)
      else none
    else (ofToken? token).map fun v => (v, rest)
  | _ => (ofToken? token).map fun v => (v, rest)

end Blitter.Toml.Scalar
