import Blitter.Format.Name
import Blitter.Proofs.Outcome
import Blitter.Proofs.Text.Blank
import Mathlib

/-!
# The names of formats

`FormatCode.Spells` is the grammar of what may stand for a code once the blanks around it are gone
and its letters are in upper case: a name of the catalog or, if it is none, any number of radix
marks, at most one plus sign, and a numeral. A text is read by exactly that grammar, and **every
code is read back from its own text**, in any letter case and among any blanks
(`FormatCode.reads_names_and_texts`).

No code is spelled `0X` by a digit, so that a radix mark never belongs to the numeral, and no name
of the catalog starts like one. That is why the text of a code that has no name is not mistaken for
a name.
-/

namespace Blitter

namespace Text

/-! ### Small letters -/

theorem isBlank_eq_false_of_isLower {c : Char} (h : c.isLower = true) : isBlank c = false := by
  simp only [Char.isLower, Bool.and_eq_true, decide_eq_true_eq, ge_iff_le,
    UInt32.le_iff_toNat_le] at h
  obtain ⟨hfirst, hlast⟩ : 97 ≤ c.toNat ∧ c.toNat ≤ 122 := h
  simp only [isBlank, Bool.or_eq_false_iff, Bool.and_eq_false_iff, decide_eq_false_iff_not,
    beq_eq_false_iff_ne]
  omega

/-! ### Numerals -/

/-- A **numeral** of base sixteen, in upper case: one or more digits, the first of them the most
significant. -/
def IsNumeral (cs : List Char) (n : Nat) : Prop :=
  ∃ digits : List (Fin 16), digits ≠ [] ∧
    (cs = digits.map fun d : Fin 16 => hexDigit .upper d.val) ∧
    n = Nat.ofDigits 16 (digits.map Fin.val).reverse

theorem isLower_hexDigit_upper (d : Fin 16) : (hexDigit .upper d).isLower = false := by
  revert d
  decide

theorem isBlank_hexDigit_upper (d : Fin 16) : isBlank (hexDigit .upper d) = false := by
  revert d
  decide

/-- A character that is no small letter has a value only as **the digit of that value**. -/
theorem hexDigit_of_hexValue? {c : Char} {d : Nat} (hc : c.isLower = false)
    (h : hexValue? c = some d) : ∃ d' : Fin 16, d'.val = d ∧ hexDigit .upper d' = c := by
  have hnat : Char.ofNat c.toNat = c := Char.ofNat_toNat c
  simp only [hexValue?] at h
  split at h
  case isTrue hdigit =>
    obtain rfl := Option.some.inj h
    refine ⟨⟨c.toNat - 48, by omega⟩, rfl, ?_⟩
    rw [hexDigit, if_pos (by simp only; omega)]
    rwa [Nat.add_sub_cancel' hdigit.1]
  case isFalse =>
    split at h
    case isTrue hletter =>
      obtain rfl := Option.some.inj h
      refine ⟨⟨c.toNat - 55, by omega⟩, rfl, ?_⟩
      rw [hexDigit, if_neg (by simp only; omega)]
      have hbase : LetterCase.upper.base = 55 := rfl
      rwa [hbase, Nat.add_sub_cancel' (by omega)]
    case isFalse =>
      split at h
      case isTrue hsmall =>
        have hlower : c.isLower = true := by
          simp only [Char.isLower, Bool.and_eq_true, decide_eq_true_eq, ge_iff_le,
            UInt32.le_iff_toNat_le]
          exact ⟨hsmall.1, Nat.le_trans hsmall.2 (by decide)⟩
        rw [hc] at hlower
        cases hlower
      case isFalse => cases h

/-- Digits continue a number **by their places**. -/
theorem readHexFrom_map_hexDigit (acc : Nat) (digits : List (Fin 16)) :
    readHexFrom acc (digits.map fun d : Fin 16 => hexDigit .upper d.val) =
      some (16 ^ digits.length * acc + Nat.ofDigits 16 (digits.map Fin.val).reverse) := by
  induction digits generalizing acc with
  | nil => simp [readHexFrom]
  | cons d digits ih =>
    have hd : hexValue? (hexDigit .upper d) = some d.val := hexValue?_hexDigit .upper d.isLt
    rw [List.map_cons, readHexFrom, hd, Option.bind_some, ih, List.map_cons, List.reverse_cons,
      Nat.ofDigits_append, Nat.ofDigits_singleton, List.length_reverse, List.length_map,
      List.length_cons, Nat.pow_succ]
    congr 1
    ring

/-- What is read as a number in upper case **consists of digits**. -/
theorem exists_digits_of_readHexFrom {acc n : Nat} {cs : List Char}
    (hcs : ∀ c ∈ cs, c.isLower = false) (h : readHexFrom acc cs = some n) :
    ∃ digits : List (Fin 16), cs = digits.map fun d : Fin 16 => hexDigit .upper d.val := by
  induction cs generalizing acc with
  | nil => exact ⟨[], rfl⟩
  | cons c cs ih =>
    obtain ⟨hc, hrest⟩ := List.forall_mem_cons.mp hcs
    obtain ⟨d, hd, h⟩ := Option.bind_eq_some_iff.mp h
    obtain ⟨d', -, hdigit⟩ := hexDigit_of_hexValue? hc hd
    obtain ⟨digits, rfl⟩ := ih hrest h
    exact ⟨d' :: digits, by rw [List.map_cons, hdigit]⟩

/-- **Numerals are read as what they stand for**, and nothing else is read. -/
theorem readHex?_eq_some_iff {cs : List Char} (hcs : ∀ c ∈ cs, c.isLower = false) {n : Nat} :
    readHex? cs = some n ↔ IsNumeral cs n := by
  unfold readHex?
  constructor
  · intro h
    split at h
    · cases h
    case isFalse hne =>
      obtain ⟨digits, rfl⟩ := exists_digits_of_readHexFrom hcs h
      rw [readHexFrom_map_hexDigit, Nat.mul_zero, Nat.zero_add] at h
      exact ⟨digits, by simpa using hne, rfl, (Option.some.inj h).symm⟩
  · rintro ⟨digits, hne, rfl, rfl⟩
    rw [if_neg (by simpa using hne), readHexFrom_map_hexDigit, Nat.mul_zero, Nat.zero_add]

/-- The digits of a number, padded or not, are a **numeral of the number**. -/
theorem isNumeral_hexChars (width n : Nat) : IsNumeral (hexChars .upper width n) n := by
  have hdigits : ∀ n, ∀ c ∈ hexDigits .upper n, c.isLower = false := by
    intro n
    induction n using Nat.strongRecOn with
    | ind n ih =>
      intro c hc
      rw [hexDigits] at hc
      split at hc
      case isTrue hn =>
        obtain rfl := List.mem_singleton.mp hc
        exact isLower_hexDigit_upper ⟨n, hn⟩
      case isFalse hn =>
        rcases List.mem_append.mp hc with hc | hc
        · exact ih (n / 16) (by omega) c hc
        · obtain rfl := List.mem_singleton.mp hc
          exact isLower_hexDigit_upper ⟨n % 16, Nat.mod_lt n (by decide)⟩
  refine (readHex?_eq_some_iff fun c hc => ?_).mp (readHex?_hexChars .upper width n)
  rcases List.mem_append.mp hc with hc | hc
  · rw [List.eq_of_mem_replicate hc]
    rfl
  · exact hdigits n c hc

end Text

open Text

namespace FormatCode

/-! ### What spells a code -/

/-- The mark of base sixteen, written so many times. -/
def radixMarks (count : Nat) : List Char := (List.replicate count ['0', 'X']).flatten

/-- The characters, in upper case and without blanks around them, **spell the code**. -/
inductive Spells (t : List Char) : FormatCode → Prop
  /-- By a name of the catalog. -/
  | name {f : Format} (hf : f ∈ Format.catalog) (ht : t = f.name.toList) : Spells t f.code
  /-- By a numeral, if they are no name of the catalog. -/
  | numeral {word : UInt32} {marks : Nat} {sign digits : List Char}
      (hname : ∀ f ∈ Format.catalog, t ≠ f.name.toList)
      (ht : t = radixMarks marks ++ (sign ++ digits)) (hsign : sign = [] ∨ sign = ['+'])
      (hdigits : IsNumeral digits word.toNat) : Spells t ⟨word⟩

/-- What spells a code **holds no blank**. -/
theorem Spells.isBlank_eq_false {t : List Char} {c : FormatCode} (h : Spells t c) :
    ∀ ch ∈ t, isBlank ch = false := by
  cases h with
  | name hf ht =>
    have hnames : ∀ f ∈ Format.catalog, f.name.toList.any isBlank = false := by decide
    intro ch hch
    exact Bool.eq_false_iff.mpr (List.any_eq_false.mp (hnames _ hf) ch (ht ▸ hch))
  | numeral _ ht hsign hdigits =>
    obtain ⟨digits, -, rfl, -⟩ := hdigits
    intro ch hch
    rw [ht, List.mem_append, List.mem_append] at hch
    rcases hch with hch | hch | hch
    · obtain ⟨mark, hmark, hch⟩ := List.mem_flatten.mp hch
      rw [List.eq_of_mem_replicate hmark] at hch
      rcases List.mem_pair.mp hch with rfl | rfl <;> rfl
    · rcases hsign with rfl | rfl
      · cases hch
      · rw [List.mem_singleton.mp hch]
        rfl
    · obtain ⟨d, -, rfl⟩ := List.mem_map.mp hch
      exact isBlank_hexDigit_upper d

/-! ### Reading -/

/-- No two formats have the same name. -/
theorem find?_name_eq_some_iff {t : List Char} {f : Format} :
    (Format.catalog.find? fun f => f.name.toList == t) = some f ↔
      f ∈ Format.catalog ∧ t = f.name.toList := by
  have hfound : ∀ f ∈ Format.catalog,
      (Format.catalog.find? fun g => g.name.toList == f.name.toList) = some f := by
    decide +kernel
  constructor
  · intro h
    have hname := List.find?_some h
    exact ⟨List.mem_of_find?_eq_some h, (beq_iff_eq.mp hname).symm⟩
  · rintro ⟨hf, rfl⟩
    exact hfound f hf

/-- Marks are dropped **as often as they stand there**. -/
theorem dropRadixMarks_append (marks : Nat) (cs : List Char) :
    dropRadixMarks (radixMarks marks ++ cs) = dropRadixMarks cs := by
  induction marks with
  | zero => rfl
  | succ marks ih =>
    have hmarks : radixMarks (marks + 1) ++ cs = '0' :: 'X' :: (radixMarks marks ++ cs) := by
      simp [radixMarks, List.replicate_succ]
    rw [hmarks, dropRadixMarks, ih]

theorem exists_eq_radixMarks_append (cs : List Char) :
    ∃ marks, cs = radixMarks marks ++ dropRadixMarks cs := by
  fun_induction dropRadixMarks cs with
  | case1 cs ih =>
    obtain ⟨marks, hmarks⟩ := ih
    refine ⟨marks + 1, ?_⟩
    have hnext : radixMarks (marks + 1) = '0' :: 'X' :: radixMarks marks := by
      simp [radixMarks, List.replicate_succ]
    rw [hnext, List.cons_append, List.cons_append, ← hmarks]
  | case2 cs => exact ⟨0, rfl⟩

/-- What is in front of a numeral is **not taken for a mark**. -/
theorem dropRadixMarks_sign_append {sign digits : List Char} {n : Nat}
    (hsign : sign = [] ∨ sign = ['+']) (hdigits : IsNumeral digits n) :
    dropRadixMarks (sign ++ digits) = sign ++ digits := by
  obtain ⟨ds, -, rfl, -⟩ := hdigits
  have hletter : ∀ d : Fin 16, hexDigit .upper d ≠ 'X' := by decide
  have hsecond : (sign ++ ds.map fun d : Fin 16 => hexDigit .upper d.val)[1]? ≠ some 'X' := by
    intro h
    rcases hsign with rfl | rfl
    · obtain ⟨d, -, hd⟩ := Option.map_eq_some_iff.mp (List.getElem?_map ▸ h)
      exact hletter d hd
    · obtain ⟨d, -, hd⟩ := Option.map_eq_some_iff.mp (List.getElem?_map (i := 0) ▸ h)
      exact hletter d hd
  rw [dropRadixMarks]
  -- a mark would have its letter among the digits
  intro rest hrest
  exact hsecond (hrest ▸ rfl)

/-- The characters consist of the digits and of **at most one plus sign** in front of them. -/
def IsSigned (cs digits : List Char) : Prop :=
  cs = '+' :: digits ∨ cs = digits ∧ digits.head? ≠ some '+'

theorem exists_isSigned (cs : List Char) : ∃ digits, IsSigned cs digits := by
  by_cases hplus : cs.head? = some '+'
  · exact ⟨cs.tail, .inl (List.eq_cons_of_mem_head? hplus)⟩
  · exact ⟨cs, .inr ⟨rfl, hplus⟩⟩

/-- A word is read from **the number that its digits write**. -/
theorem IsSigned.readWord?_eq_some_iff {cs digits : List Char} (h : IsSigned cs digits)
    {word : UInt32} : readWord? cs = some word ↔ readHex? digits = some word.toNat := by
  have hread : readWord? cs = (readHex? digits).bind fun n =>
      if n < 0x100000000 then some (UInt32.ofNat n) else none := by
    rcases h with rfl | ⟨rfl, hplus⟩
    · rw [readWord?]
      cases readHex? digits <;> rfl
    · rw [readWord?]
      · cases readHex? cs <;> rfl
      · rintro ds rfl
        exact hplus rfl
  have hword : word.toNat < 0x100000000 := word.toNat_lt
  simp only [hread, Option.bind_eq_some_iff, Option.ite_none_right_eq_some, Option.some.injEq]
  constructor
  · rintro ⟨n, hn, hlt, rfl⟩
    rw [UInt32.toNat_ofNat_of_lt' hlt, hn]
  · intro hn
    exact ⟨word.toNat, hn, hword, UInt32.ofNat_toNat⟩

/-- A plus sign is **no digit**. -/
theorem isSigned_sign_append {sign digits : List Char} {n : Nat}
    (hsign : sign = [] ∨ sign = ['+']) (hdigits : IsNumeral digits n) :
    IsSigned (sign ++ digits) digits := by
  obtain ⟨ds, -, rfl, -⟩ := hdigits
  rcases hsign with rfl | rfl
  · have hnone : ∀ d : Fin 16, hexDigit .upper d ≠ '+' := by decide
    refine .inr ⟨rfl, fun hplus => ?_⟩
    obtain ⟨d, -, hd⟩ := List.mem_map.mp (List.mem_of_head? hplus)
    exact hnone d hd
  · exact .inl rfl

/-- **What is in upper case is read by the grammar.** -/
theorem ofUpper?_eq_some_iff {t : List Char} (ht : ∀ ch ∈ t, ch.isLower = false)
    {c : FormatCode} : ofUpper? t = some c ↔ Spells t c := by
  unfold ofUpper?
  split
  case h_1 f hf =>
    obtain ⟨hmem, hname⟩ := find?_name_eq_some_iff.mp hf
    constructor
    · intro h
      obtain rfl := Option.some.inj h
      exact .name hmem hname
    · intro h
      cases h with
      | name hmem' hname' =>
        rw [find?_name_eq_some_iff.mpr ⟨hmem', hname'⟩] at hf
        rw [Option.some.inj hf]
      | numeral hnone _ _ _ => exact absurd hname (hnone f hmem)
  case h_2 hfind =>
    have hnone : ∀ f ∈ Format.catalog, t ≠ f.name.toList := by
      intro f hf hname
      rw [find?_name_eq_some_iff.mpr ⟨hf, hname⟩] at hfind
      cases hfind
    obtain ⟨marks, hmarks⟩ := exists_eq_radixMarks_append t
    have hrest : ∀ ch ∈ dropRadixMarks t, ch.isLower = false := fun ch hch =>
      ht ch (hmarks ▸ List.mem_append_right _ hch)
    rw [Option.map_eq_some_iff]
    constructor
    · rintro ⟨word, hword, rfl⟩
      obtain ⟨digits, hdigits⟩ := exists_isSigned (dropRadixMarks t)
      have hnumeral := hdigits.readWord?_eq_some_iff.mp hword
      rcases hdigits with hsign | ⟨hsign, -⟩
      · rw [hsign, List.forall_mem_cons] at hrest
        exact .numeral hnone (hsign ▸ hmarks) (.inr rfl)
          ((readHex?_eq_some_iff hrest.2).mp hnumeral)
      · rw [hsign] at hrest hmarks
        exact .numeral hnone hmarks (.inl rfl) ((readHex?_eq_some_iff hrest).mp hnumeral)
    · intro h
      cases h with
      | name hf hname => exact absurd hname (hnone _ hf)
      | numeral _ heq hsign hdigits =>
        have hsigned := isSigned_sign_append hsign hdigits
        rw [heq, dropRadixMarks_append, dropRadixMarks_sign_append hsign hdigits] at hrest ⊢
        have hnumeral := (readHex?_eq_some_iff fun ch hch =>
          hrest ch (List.mem_append_right _ hch)).mpr hdigits
        exact ⟨_, hsigned.readWord?_eq_some_iff.mpr hnumeral, rfl⟩

theorem ofName?_eq_some_iff {text : String} {c : FormatCode} :
    ofName? text = some c ↔ Spells ((trimChars text.toList).map Char.toUpper) c := by
  refine ofUpper?_eq_some_iff fun ch hch => ?_
  obtain ⟨ch, -, rfl⟩ := List.mem_map.mp hch
  exact Char.isLower_toUpper_eq_false ch

theorem ofName_eq_ok_iff {text : String} {c : FormatCode} :
    ofName text = .ok c ↔ Spells ((trimChars text.toList).map Char.toUpper) c := by
  rw [← ofName?_eq_some_iff, ofName]
  cases ofName? text with
  | none => simp [reject]
  | some c' => simp

/-- What is not read is turned down **by the text without its blanks**. -/
theorem ofName_eq_reject_iff {text : String} :
    ofName text = reject (.unknownFormatName (trim text)) ↔
      ¬ ∃ c, Spells ((trimChars text.toList).map Char.toUpper) c := by
  simp only [← ofName?_eq_some_iff, ofName]
  cases ofName? text with
  | none => simp
  | some c => simp [reject]

/-! ### Texts of codes -/

/-- **The text of a code spells the code.** -/
theorem spells_text (c : FormatCode) : Spells (c.text.toList.map Char.toUpper) c := by
  unfold text name? format?
  cases hfind : Format.catalog.find? fun f => f.code == c with
  | some f =>
    have hupper : ∀ f ∈ Format.catalog, f.name.toList.map Char.toUpper = f.name.toList := by
      decide
    have hmem := List.mem_of_find?_eq_some hfind
    have hcode := List.find?_some hfind
    exact beq_iff_eq.mp hcode ▸ .name hmem (hupper f hmem)
  | none =>
    have hdigits := isNumeral_hexChars 8 c.word.toNat
    have hsame : (hexChars .upper 8 c.word.toNat).map Char.toUpper =
        hexChars .upper 8 c.word.toNat := by
      obtain ⟨digits, -, hchars, -⟩ := hdigits
      have hupper : ∀ d : Fin 16, (hexDigit .upper d).toUpper = hexDigit .upper d := by decide
      rw [hchars, List.map_map]
      exact List.map_congr_left fun d _ => hupper d
    have htext : ("0x" ++ hex .upper 8 c.word.toNat).toList.map Char.toUpper =
        radixMarks 1 ++ ([] ++ hexChars .upper 8 c.word.toNat) := by
      simp only [String.toList_append, hex, String.toList_ofList, List.map_append, hsame]
      rfl
    refine .numeral (fun f hf hname => ?_) htext (.inl rfl) hdigits
    -- no name of the catalog starts with a zero
    have hzero : ∀ f ∈ Format.catalog, f.name.toList.head? ≠ some '0' := by decide
    refine hzero f hf ?_
    rw [← hname]
    simp only [Option.map_none]
    rw [htext]
    rfl

/-- The text **shows the code**: as it is written, but in any letter case, between blanks. -/
def IsShownBy (c : FormatCode) (text : String) : Prop :=
  ∃ before shown after, text.toList = before ++ shown ++ after ∧
    (∀ ch ∈ before ++ after, isBlank ch = true) ∧
    shown.map Char.toUpper = c.text.toList.map Char.toUpper

theorem isTrimmed_of_isShownBy {c : FormatCode} {shown : List Char}
    (h : shown.map Char.toUpper = c.text.toList.map Char.toUpper) {before after : List Char}
    (hblank : ∀ ch ∈ before ++ after, isBlank ch = true) :
    IsTrimmed (before ++ shown ++ after) shown := by
  have hnone : ∀ ch ∈ shown, isBlank ch = false := by
    intro ch hch
    have hupper : isBlank ch.toUpper = false :=
      (spells_text c).isBlank_eq_false _ (h ▸ List.mem_map_of_mem hch)
    -- a blank is no letter, and so its own upper case
    by_contra hblankCh
    have hlower : ¬ ch.isLower := fun hlower =>
      hblankCh (isBlank_eq_false_of_isLower hlower)
    exact hblankCh (Char.toUpper_eq_of_not_isLower hlower ▸ hupper)
  exact
    { ends := ⟨before, after, rfl, hblank⟩
      first := fun ch hch => hnone ch (List.mem_of_mem_head? hch)
      last := fun ch hch => hnone ch (List.mem_of_mem_getLast? hch) }

theorem ofName_of_isShownBy {c : FormatCode} {text : String} (h : c.IsShownBy text) :
    ofName text = .ok c := by
  obtain ⟨before, shown, after, htext, hblank, hshown⟩ := h
  rw [ofName_eq_ok_iff, htext, (isTrimmed_of_isShownBy hshown hblank).trimChars_eq, hshown]
  exact spells_text c

/-! ### The names read -/

/-- **A text is read by the grammar, and every code is read back from its text.** What is left of
a text without its blanks names, in upper case, the codes that it spells; if it spells none, the
text is turned down by it. A code that is shown by a text, in whatever letter case and among
whatever blanks, is the one the text is read as. -/
theorem reads_names_and_texts :
    (∀ text : String, ∃ t, IsTrimmed text.toList t ∧
      (∀ c, ofName text = .ok c ↔ Spells (t.map Char.toUpper) c) ∧
      ((¬ ∃ c, Spells (t.map Char.toUpper) c) ↔
        ofName text = reject (.unknownFormatName (String.ofList t)))) ∧
    ∀ (c : FormatCode) (text : String), c.IsShownBy text → ofName text = .ok c := by
  constructor
  · intro text
    exact ⟨trimChars text.toList, isTrimmed_trimChars _, fun _ => ofName_eq_ok_iff,
      ofName_eq_reject_iff.symm⟩
  · intro c text h
    exact ofName_of_isShownBy h

theorem reads_names_and_texts_deadBeef :
    IsShownBy ⟨0xDEADBEEF⟩ " 0XdeadBeef\n" ∧ ofName " 0XdeadBeef\n" = .ok ⟨0xDEADBEEF⟩ := by
  have hshown : IsShownBy ⟨0xDEADBEEF⟩ " 0XdeadBeef\n" :=
    ⟨[' '], "0XdeadBeef".toList, ['\n'], rfl, List.all_eq_true.mp (by decide), by decide +kernel⟩
  exact ⟨hshown, reads_names_and_texts.2 _ _ hshown⟩

end FormatCode

end Blitter
