import Blitter.Toml.Scalar
import Mathlib.Data.List.Basic
import Mathlib.Data.List.TakeWhile

/-!
# Decimal numbers are read back

A token of decimal digits is no word, no date and no float, since each of those holds another
character. So the digits of a natural number with room in 64 bits and a sign are read as
**the number** (`Scalar.read_toDigits`).
-/

namespace Blitter.Toml.Scalar

open Data

/-! ### Tokens of digits -/

/-- Nothing but **decimal digits**, and at least one. -/
structure IsDigits (ds : List Char) : Prop where
  nonempty : ds ≠ []
  digits : ∀ c ∈ ds, c.isDigit = true

theorem isDigits_toDigits (n : Nat) : IsDigits (Nat.toDigits 10 n) where
  nonempty := Nat.toDigits_ne_nil
  digits _ hc := Nat.isDigit_of_mem_toDigits (by decide) (by decide) hc

theorem isToken_of_isDigit {c : Char} (h : c.isDigit = true) : isToken c = true := by
  simp [isToken, Char.isAlphanum, h]

/-- A rest starts with a character **only if it holds one**. -/
theorem expect?_eq_none {c : Char} {cs : List Char} (h : c ∉ cs) : expect? c cs = none := by
  cases cs with
  | nil => rfl
  | cons d cs =>
    rw [expect?, if_neg]
    rintro rfl
    exact h List.mem_cons_self

theorem rest_of_digits? {n k : Nat} {cs rest : List Char} (h : digits? n cs = some (k, rest)) :
    rest = cs.drop n := by
  simp only [digits?] at h
  split at h
  case isTrue => exact (Prod.mk.inj (Option.some.inj h)).2.symm
  case isFalse => cases h

namespace IsDigits

variable {ds : List Char}

/-- A token of digits **holds no other character**. -/
theorem not_mem (h : IsDigits ds) {c : Char} (hc : c.isDigit = false) : c ∉ ds := by
  intro hmem
  rw [h.digits c hmem] at hc
  cases hc

/-- After some digits no other character is found. -/
theorem expect?_of_digits? (h : IsDigits ds) {n k : Nat} {rest : List Char}
    (hrest : digits? n ds = some (k, rest)) {c : Char} (hc : c.isDigit = false) :
    expect? c rest = none := by
  refine expect?_eq_none fun hmem => h.not_mem hc ?_
  rw [rest_of_digits? hrest] at hmem
  exact List.mem_of_mem_drop hmem

theorem afterDate?_eq_none (h : IsDigits ds) : afterDate? ds = none := by
  unfold afterDate?
  cases hyear : digits? 4 ds with
  | none => rfl
  | some year =>
    have hmark := h.expect?_of_digits? hyear (c := '-') rfl
    simp only [Option.bind_eq_bind, Option.bind_some, hmark, Option.bind_none]

theorem afterTime?_eq_none (h : IsDigits ds) : afterTime? ds = none := by
  unfold afterTime? afterMinutes?
  cases hhour : digits? 2 ds with
  | none => rfl
  | some hour =>
    have hmark := h.expect?_of_digits? hhour (c := ':') rfl
    simp only [Option.bind_eq_bind, Option.bind_some, hmark, Option.bind_none]

/-- A token of digits is **no date**. -/
theorem isDate_eq_false (h : IsDigits ds) : isDate ds = false := by
  rw [isDate, h.afterTime?_eq_none, h.afterDate?_eq_none]
  rfl

theorem unsign_eq (h : IsDigits ds) : unsign ds = (false, ds) := by
  unfold unsign
  split
  case h_1 => exact absurd List.mem_cons_self (h.not_mem (c := '+') rfl)
  case h_2 => exact absurd List.mem_cons_self (h.not_mem (c := '-') rfl)
  case h_3 => rfl

/-- A token of digits is **no float**: it has neither a point nor an exponent. -/
theorem isFloat_eq_false (h : IsDigits ds) : isFloat ds = false := by
  have hword : ∀ c : Char, c.isDigit = false → ∀ cs, (ds == c :: cs) = false := by
    rintro c hc cs
    rw [beq_eq_false_iff_ne]
    rintro rfl
    exact h.not_mem hc List.mem_cons_self
  have hmark : ∀ c ∈ ds, (!isExponentMark c) = true := by
    intro c hc
    have he : c ≠ 'e' := fun heq => h.not_mem (c := 'e') rfl (heq ▸ hc)
    have hE : c ≠ 'E' := fun heq => h.not_mem (c := 'E') rfl (heq ▸ hc)
    simp [isExponentMark, he, hE]
  have hpoint : ∀ c ∈ ds, (c != '.') = true := by
    intro c hc
    exact bne_iff_ne.mpr fun heq => h.not_mem (c := '.') rfl (heq ▸ hc)
  have hparts : floatParts? ds = none := by
    have hbefore : ds.takeWhile (fun c => !isExponentMark c) = ds :=
      List.takeWhile_eq_self_iff.mpr hmark
    have hafter : ds.dropWhile (fun c => !isExponentMark c) = [] :=
      List.dropWhile_eq_nil_iff.mpr hmark
    have hfraction : ds.dropWhile (fun c => c != '.') = [] := List.dropWhile_eq_nil_iff.mpr hpoint
    simp only [floatParts?, hbefore, hafter, hfraction, Option.bind_eq_bind, Option.bind_some,
      if_pos]
    exact Option.bind_eq_none_iff.mpr fun _ _ => rfl
  simp only [isFloat, h.unsign_eq, hword 'i' rfl, hword 'n' rfl, hparts, Bool.false_or]

/-! ### The number of a token -/

/-- No underscore stands between the digits. -/
theorem separated?_eq (h : IsDigits ds) : separated? Char.isDigit ds = some ds := by
  obtain ⟨hne, hdigits⟩ := h
  induction ds with
  | nil => exact absurd rfl hne
  | cons c cs ih =>
    obtain ⟨hc, hcs⟩ := List.forall_mem_cons.mp hdigits
    cases cs with
    | nil => rw [separated?, if_pos hc]
    | cons d ds =>
      have hd : d ≠ '_' := by
        rintro rfl
        cases hcs _ List.mem_cons_self
      rw [separated?, if_pos hc, ih (List.cons_ne_nil d ds) hcs]
      · rfl
      · exact List.cons_ne_nil d ds
      · exact fun t ht => hd (List.cons.inj ht).1

/-- A whole number is read from digits **without a leading zero**. -/
theorem integer?_eq (h : IsDigits ds) (hzero : ∀ d t, ds ≠ '0' :: d :: t) :
    integer? ds = fit? (decimal ds) := by
  have hwhole : wholeDigits? ds = some ds := by
    rw [wholeDigits?, h.separated?_eq]
    split
    case h_1 heq => exact absurd (Option.some.inj heq) (hzero _ _)
    case h_2 => rfl
  rw [integer?, h.unsign_eq]
  · change (wholeDigits? ds).bind _ = _
    rw [hwhole, Option.bind_some, if_neg Bool.false_ne_true]
  · exact fun t => hzero _ t
  · exact fun t => hzero _ t
  · exact fun t => hzero _ t

theorem ofToken?_eq (h : IsDigits ds) (hzero : ∀ d t, ds ≠ '0' :: d :: t) :
    ofToken? ds = (fit? (decimal ds)).map .integer := by
  have hword : ∀ c : Char, c.isDigit = false → ∀ cs, ds ≠ c :: cs := by
    rintro c hc cs rfl
    exact h.not_mem hc List.mem_cons_self
  have htrue : ds ≠ "true".toList := hword 't' rfl ['r', 'u', 'e']
  have hfalse : ds ≠ "false".toList := hword 'f' rfl ['a', 'l', 's', 'e']
  rw [ofToken?, if_neg htrue, if_neg hfalse, h.isDate_eq_false, h.isFloat_eq_false,
    h.integer?_eq hzero]
  rfl

end IsDigits

/-- The digits of a number **have no leading zero**. -/
theorem head?_toDigits_ne {n : Nat} (hn : 0 < n) : (Nat.toDigits 10 n).head? ≠ some '0' := by
  induction n using Nat.strongRecOn with
  | ind n ih =>
    by_cases hlt : n < 10
    · have hdigit : ∀ n < 10, 0 < n → [n.digitChar].head? ≠ some '0' := by decide
      rw [Nat.toDigits_of_lt_base hlt]
      exact hdigit n hlt hn
    · have hhead : (Nat.toDigits 10 (n / 10) ++ [(n % 10).digitChar]).head? =
          (Nat.toDigits 10 (n / 10)).head? :=
        List.head?_append_of_ne_nil _ Nat.toDigits_ne_nil
      rw [Nat.toDigits_of_base_le (by decide) (by omega), hhead]
      exact ih (n / 10) (by omega) (by omega)

theorem toDigits_ne_cons_cons (n : Nat) (d : Char) (t : List Char) :
    Nat.toDigits 10 n ≠ '0' :: d :: t := by
  intro heq
  by_cases hn : 0 < n
  · exact head?_toDigits_ne hn (heq ▸ rfl)
  · obtain rfl : n = 0 := by omega
    cases heq

/-- **The digits of a number are read as the number**, up to the end of their line. -/
theorem read_toDigits {n : Nat} (hn : n < 0x8000000000000000) (s : List Char) :
    read (Nat.toDigits 10 n ++ '\n' :: s) = some (.integer n, '\n' :: s) := by
  have hdigits := isDigits_toDigits n
  have htoken : ∀ c ∈ Nat.toDigits 10 n, isToken c = true := fun c hc =>
    isToken_of_isDigit (hdigits.digits c hc)
  have htake : (Nat.toDigits 10 n ++ '\n' :: s).takeWhile isToken = Nat.toDigits 10 n := by
    rw [List.takeWhile_append_of_pos htoken]
    exact List.append_nil _
  have hdrop : (Nat.toDigits 10 n ++ '\n' :: s).dropWhile isToken = '\n' :: s := by
    rw [List.dropWhile_append_of_pos htoken]
    rfl
  have hvalue : ofToken? (Nat.toDigits 10 n) = some (.integer n) := by
    have hdecimal : decimal (Nat.toDigits 10 n) = n := Nat.ofDigitChars_ten_toDigits
    rw [hdigits.ofToken?_eq (toDigits_ne_cons_cons n), hdecimal, fit?, if_pos (by omega)]
    rfl
  simp only [read, htake, hdrop, hvalue]
  rfl

end Blitter.Toml.Scalar
