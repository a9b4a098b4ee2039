/-!
# Hexadecimal numerals

Digits of a number in base sixteen, most significant first, padded with zeros to a least width,
and the reading of such digits. **Reading undoes writing:** `readHex?_hexChars`.
-/

namespace Blitter.Text

/-- The letters used for the digits ten to fifteen. -/
inductive LetterCase where
  | lower
  | upper
  deriving DecidableEq, Repr

/-- The code point from which the letter digits count: the letter for ten, less ten. -/
def LetterCase.base : LetterCase → Nat
  | .lower => 87
  | .upper => 55

/-- The digit for a value below sixteen. -/
def hexDigit (letters : LetterCase) (d : Nat) : Char :=
  if d < 10 then Char.ofNat (48 + d) else Char.ofNat (letters.base + d)

/-- The digits of `n` without leading zeros; zero has the one digit `0`. -/
def hexDigits (letters : LetterCase) (n : Nat) : List Char :=
  if n < 16 then [hexDigit letters n]
  else hexDigits letters (n / 16) ++ [hexDigit letters (n % 16)]

/-- The digits of `n` with as many leading zeros as make at least `width` characters. -/
def hexChars (letters : LetterCase) (width n : Nat) : List Char :=
  let ds := hexDigits letters n
  List.replicate (width - ds.length) '0' ++ ds

/-- `hexChars` as a text. -/
def hex (letters : LetterCase) (width n : Nat) : String := String.ofList (hexChars letters width n)

/-- The value of one digit, with letters of either case. -/
def hexValue? (c : Char) : Option Nat :=
  let n := c.toNat
  if 48 ≤ n ∧ n ≤ 57 then some (n - 48)
  else if 65 ≤ n ∧ n ≤ 70 then some (n - 55)
  else if 97 ≤ n ∧ n ≤ 102 then some (n - 87)
  else none

/-- The number that continues `acc` by the given digits, if all of them are digits. -/
def readHexFrom (acc : Nat) : List Char → Option Nat
  | [] => some acc
  | c :: cs => (hexValue? c).bind fun d => readHexFrom (16 * acc + d) cs

/-- The number written by one or more hexadecimal digits. -/
def readHex? (cs : List Char) : Option Nat :=
  if cs.isEmpty then none else readHexFrom 0 cs

theorem hexValue?_hexDigit (letters : LetterCase) {d : Nat} (h : d < 16) :
    hexValue? (hexDigit letters d) = some d := by
  have key : ∀ l ∈ [LetterCase.lower, .upper], ∀ k ∈ List.range 16,
      hexValue? (hexDigit l k) = some k := by decide
  exact key letters (by cases letters <;> simp) d (List.mem_range.2 h)

theorem readHexFrom_append (acc : Nat) (xs ys : List Char) :
    readHexFrom acc (xs ++ ys) = (readHexFrom acc xs).bind fun n => readHexFrom n ys := by
  induction xs generalizing acc with
  | nil => rfl
  | cons c cs ih =>
    simp only [List.cons_append, readHexFrom]
    cases hexValue? c <;> simp [ih]

theorem readHexFrom_hexDigits (letters : LetterCase) (n : Nat) :
    readHexFrom 0 (hexDigits letters n) = some n := by
  induction n using Nat.strongRecOn with
  | ind n ih =>
    rw [hexDigits]
    split
    case isTrue h => simp [readHexFrom, hexValue?_hexDigit letters h]
    case isFalse h =>
      rw [readHexFrom_append, ih (n / 16) (by omega)]
      simp only [Option.bind_some, readHexFrom, hexValue?_hexDigit letters (Nat.mod_lt n (by omega)),
        Option.some.injEq]
      omega

theorem readHexFrom_replicate_zero (k : Nat) : readHexFrom 0 (List.replicate k '0') = some 0 := by
  induction k with
  | zero => rfl
  | succ k ih =>
    rw [List.replicate_succ, readHexFrom, show hexValue? '0' = some 0 from by decide]
    simpa using ih

theorem hexChars_ne_nil (letters : LetterCase) (width n : Nat) : hexChars letters width n ≠ [] := by
  have : hexDigits letters n ≠ [] := by rw [hexDigits]; split <;> simp
  simp [hexChars, this]

/-- **Reading undoes writing,** whatever the letters and the padding. -/
theorem readHex?_hexChars (letters : LetterCase) (width n : Nat) :
    readHex? (hexChars letters width n) = some n := by
  have hne := hexChars_ne_nil letters width n
  rw [readHex?, if_neg (by simpa using hne), hexChars, readHexFrom_append,
    readHexFrom_replicate_zero]
  exact readHexFrom_hexDigits letters n

end Blitter.Text
