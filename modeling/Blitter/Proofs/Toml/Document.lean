import Blitter.Proofs.Toml.Quotation
import Blitter.Proofs.Toml.Scalar
import Blitter.Toml.Document

/-!
# Documents of plain lines

A `PlainLine` gives a value to a key that stands without quotes and without dots. A document that
consists of such lines, with different keys, is read as **the table of its keys and values**, in
order (`Document.parse_plainLines`).
-/

namespace Blitter.Toml.Document

open Data

/-! ### Values -/

/-- The text **shows the value** when it stands at the end of a line. -/
structure Shows (text : List Char) (v : Value) : Prop where
  start : ∃ c cs, text = c :: cs ∧ isSpace c = false
  read : ∀ (fuel depth : Nat) (s : List Char),
    value (fuel + 1) depth (text ++ '\n' :: s) = some (v, '\n' :: s)

/-- A string is shown **by quotes from which it is read back**. -/
theorem shows_of_readString {text : String} {q : Char} {rest : List Char} (hq : q = '"' ∨ q = '\'')
    (h : ∀ s, readString (q :: rest ++ '\n' :: s) = some (text.toList, '\n' :: s)) :
    Shows (q :: rest) (.string text) := by
  constructor
  · refine ⟨q, rest, rfl, ?_⟩
    rcases hq with rfl | rfl <;> rfl
  · intro fuel depth s
    have hvalue : value (fuel + 1) depth (q :: rest ++ '\n' :: s) =
        (readString (q :: rest ++ '\n' :: s)).map fun read =>
          (.string (String.ofList read.1), read.2) := by
      rcases hq with rfl | rfl <;> rw [List.cons_append, value]
    rw [hvalue, h, Option.map_some]
    simp only [String.ofList_toList]

/-- A string is shown **by what is written for it**. -/
theorem shows_string {text : String} {t : List Char} (h : Quotation.write? text.toList = some t) :
    Shows t (.string text) := by
  obtain ⟨q, rest, rfl, hq⟩ := Quotation.exists_cons_of_write? h
  refine shows_of_readString hq fun s => Quotation.readString_of_write? h ?_
  simp [Quotation.IsAfter]

/-- A number is shown **by its digits**, if it has room. -/
theorem shows_integer {n : Nat} (h : n < 0x8000000000000000) :
    Shows (Nat.toDigits 10 n) (.integer n) := by
  have hdigits := Scalar.isDigits_toDigits n
  have hread := Scalar.read_toDigits h
  obtain ⟨c, cs, htext⟩ := List.exists_cons_of_ne_nil hdigits.nonempty
  rw [htext] at hread ⊢
  have hdigit : c.isDigit = true := hdigits.digits c (htext ▸ List.mem_cons_self)
  have hne : ∀ d : Char, d.isDigit = false → ∀ s t, c :: s ≠ d :: t := by
    rintro d hd s t heq
    rw [(List.cons.inj heq).1, hd] at hdigit
    cases hdigit
  constructor
  · refine ⟨c, cs, rfl, ?_⟩
    rw [isSpace, Bool.or_eq_false_iff, beq_eq_false_iff_ne, beq_eq_false_iff_ne]
    exact ⟨fun heq => hne ' ' rfl [] [] (heq ▸ rfl), fun heq => hne '\t' rfl [] [] (heq ▸ rfl)⟩
  · intro fuel depth s
    rw [List.cons_append, value]
    · exact hread s
    · exact hne '[' rfl _
    · exact hne '\x7b' rfl _
    · exact hne '"' rfl _
    · exact hne '\'' rfl _

/-! ### Keys -/

/-- A key that stands **without quotes**. -/
structure IsBareKey (k : String) : Prop where
  nonempty : k.toList ≠ []
  bare : ∀ c ∈ k.toList, isBare c = true

instance (k : String) : Decidable (IsBareKey k) :=
  decidable_of_iff (k.toList ≠ [] ∧ k.toList.all isBare = true)
    ⟨fun h => ⟨h.1, List.all_eq_true.mp h.2⟩, fun h => ⟨h.1, List.all_eq_true.mpr h.2⟩⟩

theorem ne_of_isBare {c d : Char} (hc : isBare c = true) (hd : isBare d = false) : c ≠ d := by
  rintro rfl
  rw [hc] at hd
  cases hd

namespace IsBareKey

variable {k : String}

/-- What a bare key **starts with**. -/
theorem exists_cons (h : IsBareKey k) : ∃ c cs, k.toList = c :: cs ∧ isBare c = true := by
  obtain ⟨c, cs, hk⟩ := List.exists_cons_of_ne_nil h.nonempty
  exact ⟨c, cs, hk, h.bare c (hk ▸ List.mem_cons_self)⟩

theorem skipSpaces_append (h : IsBareKey k) (s : List Char) :
    skipSpaces (k.toList ++ s) = k.toList ++ s := by
  obtain ⟨c, cs, hk, hc⟩ := h.exists_cons
  have hspace : isSpace c = false := by
    rw [isSpace, Bool.or_eq_false_iff, beq_eq_false_iff_ne, beq_eq_false_iff_ne]
    constructor <;> rintro rfl <;> cases hc
  rw [hk, List.cons_append]
  exact List.dropWhile_cons_of_neg (by simp [hspace])

/-- A bare key is read **up to its end**. -/
theorem keyPart_append (h : IsBareKey k) (s : List Char) :
    keyPart (k.toList ++ ' ' :: s) = some (k, ' ' :: s) := by
  have htake : (k.toList ++ ' ' :: s).takeWhile isBare = k.toList := by
    rw [List.takeWhile_append_of_pos h.bare]
    exact List.append_nil _
  have hdrop : (k.toList ++ ' ' :: s).dropWhile isBare = ' ' :: s := by
    rw [List.dropWhile_append_of_pos h.bare]
    rfl
  unfold keyPart
  obtain ⟨c, cs, hk, hc⟩ := h.exists_cons
  split
  case h_1 heq =>
    rw [hk] at heq
    obtain ⟨rfl, -⟩ := List.cons.inj heq
    cases hc
  case h_2 heq =>
    rw [hk] at heq
    obtain ⟨rfl, -⟩ := List.cons.inj heq
    cases hc
  case h_3 =>
    simp only [htake, hdrop, String.ofList_toList]
    rw [if_neg (by simpa using h.nonempty)]

theorem key_append (h : IsBareKey k) (s : List Char) :
    key (k.toList ++ ' ' :: '=' :: s) = some (([], k), '=' :: s) := by
  have hspaces : skipSpaces (' ' :: '=' :: s) = '=' :: s := rfl
  obtain ⟨fuel, hfuel⟩ : ∃ fuel, (k.toList ++ ' ' :: '=' :: s).length = fuel + 1 := by
    rw [List.length_append, List.length_cons]
    exact ⟨_, rfl⟩
  have hparts : keyParts (fuel + 1) (k.toList ++ ' ' :: '=' :: s) = some ([k], '=' :: s) := by
    rw [keyParts, h.skipSpaces_append, h.keyPart_append]
    rfl
  rw [key, hfuel, hparts]
  rfl

end IsBareKey

/-! ### Lines -/

/-- A line that gives **a value to a key**. -/
structure PlainLine where
  key : String
  /-- What stands for the value. -/
  text : List Char
  value : Value

namespace PlainLine

/-- The characters of the line. -/
def chars (l : PlainLine) : List Char :=
  l.key.toList ++ ' ' :: '=' :: ' ' :: l.text ++ ['\n']

/-- The key needs **no quotes**, and the text shows the value. -/
structure IsSound (l : PlainLine) : Prop where
  key : IsBareKey l.key
  text : Shows l.text l.value

/-- A sound line **adds its key** to the table that is open at the start of a document. -/
theorem IsSound.keyLine_append {l : PlainLine} (h : l.IsSound) {es : Entries}
    (hfresh : es.find? l.key = none) (s : List Char) :
    keyLine ⟨es, []⟩ (l.chars ++ s) = some (⟨es ++ [(l.key, .leaf l.value)], []⟩, s) := by
  obtain ⟨c, cs, htext, hspace⟩ := h.text.start
  have hchars : l.chars ++ s = l.key.toList ++ ' ' :: '=' :: ' ' :: (l.text ++ '\n' :: s) := by
    simp [chars]
  have hskip : skipSpaces (' ' :: (l.text ++ '\n' :: s)) = l.text ++ '\n' :: s := by
    rw [htext, skipSpaces, List.dropWhile_cons_of_pos rfl]
    exact List.dropWhile_cons_of_neg (by simp [hspace])
  have hequals : Scalar.expect? '=' ('=' :: ' ' :: (l.text ++ '\n' :: s)) =
      some (' ' :: (l.text ++ '\n' :: s)) := rfl
  have hend : lineEnd? ('\n' :: s) = some s := rfl
  have hextend : es.within .implied (fun here es => es.extend here [] l.key l.value) .header [] =
      some (es ++ [(l.key, .leaf l.value)]) := by
    simp [Entries.within, Entries.extend, Entries.define, hfresh]
  rw [hchars, keyLine, h.key.key_append]
  simp only [Option.bind_eq_bind, Option.bind_some, hequals, hskip, h.text.read, hend, hextend]
  rfl

/-- A sound line is **read as a line of its own**. -/
theorem IsSound.lines_append {l : PlainLine} (h : l.IsSound) {es : Entries}
    (hfresh : es.find? l.key = none) (fuel : Nat) (s : List Char) :
    lines (fuel + 1) ⟨es, []⟩ (l.chars ++ s) =
      lines fuel ⟨es ++ [(l.key, .leaf l.value)], []⟩ s := by
  obtain ⟨c, cs, hk, hc⟩ := h.key.exists_cons
  have hskip : skipSpaces (l.chars ++ s) = l.chars ++ s := by
    rw [chars, List.append_assoc, List.append_assoc]
    exact h.key.skipSpaces_append _
  have hkey := h.keyLine_append hfresh s
  obtain ⟨rest, hrest⟩ : ∃ rest, l.chars ++ s = c :: rest := by
    rw [chars, hk]
    exact ⟨_, rfl⟩
  have hne : ∀ d : Char, isBare d = false → c ≠ d := fun d hd => ne_of_isBare hc hd
  have hline : newline? (c :: rest) = none := by
    unfold newline?
    split
    case h_1 heq => exact absurd (List.cons.inj heq).1 (hne '\n' rfl)
    case h_2 heq => exact absurd (List.cons.inj heq).1 (hne '\r' rfl)
    case h_3 => rfl
  rw [lines, hskip]
  rw [hrest] at hkey ⊢
  split
  case h_1 heq => cases heq
  case h_2 heq => exact absurd (List.cons.inj heq).1 (hne '#' rfl)
  case h_3 heq => exact absurd (List.cons.inj heq).1 (hne '[' rfl)
  case h_4 heq => exact absurd (List.cons.inj heq).1 (hne '[' rfl)
  case h_5 =>
    rw [hline, hkey]
    rfl

/-- The key and the value of the line. -/
def entry (l : PlainLine) : String × Value := (l.key, l.value)

/-- The node that the line adds. -/
def node (l : PlainLine) : String × Node := (l.key, .leaf l.value)

end PlainLine

/-- The lines give **different keys**, each a value that can be read. -/
structure IsPlain (ls : List PlainLine) : Prop where
  sound : ∀ l ∈ ls, l.IsSound
  keys : (ls.map PlainLine.key).Nodup

/-- A key that is not there **is found only as the one that is added**. -/
theorem find?_append_eq_none {es : Entries} {k : String} (h : es.find? k = none)
    {added : String × Node} (hk : k ≠ added.1) : Entries.find? (es ++ [added]) k = none := by
  simp only [Entries.find?, List.lookup_append] at h ⊢
  rw [h, Option.none_or]
  obtain ⟨k', node⟩ := added
  have hne : (k == k') = false := beq_false_of_ne hk
  simp only [List.lookup_cons, hne, List.lookup_nil]

/-- **Plain lines are read one after the other**, and each adds its key. -/
theorem lines_plainLines {ls : List PlainLine} (h : IsPlain ls) {es : Entries}
    (hfresh : ∀ l ∈ ls, es.find? l.key = none) {fuel : Nat} (hfuel : ls.length < fuel) :
    lines fuel ⟨es, []⟩ (ls.flatMap PlainLine.chars) = some ⟨es ++ ls.map PlainLine.node, []⟩ := by
  induction ls generalizing es fuel with
  | nil =>
    obtain ⟨fuel, rfl⟩ : ∃ n, fuel = n + 1 := ⟨fuel - 1, by omega⟩
    rw [List.flatMap_nil, lines, List.map_nil, List.append_nil]
    rfl
  | cons l ls ih =>
    obtain ⟨fuel, rfl⟩ : ∃ n, fuel = n + 1 := ⟨fuel - 1, by omega⟩
    obtain ⟨hl, hls⟩ := List.forall_mem_cons.mp h.sound
    obtain ⟨hnew, hkeys⟩ := List.nodup_cons.mp h.keys
    obtain ⟨hfirst, hrest⟩ := List.forall_mem_cons.mp hfresh
    have hnext : ∀ l' ∈ ls, Entries.find? (es ++ [l.node]) l'.key = none := by
      intro l' hl'
      refine find?_append_eq_none (hrest l' hl') fun heq => hnew ?_
      have hmem : l'.key ∈ ls.map PlainLine.key := List.mem_map_of_mem hl'
      rwa [heq] at hmem
    rw [List.flatMap_cons, hl.lines_append hfirst]
    rw [List.length_cons] at hfuel
    have hread := ih ⟨hls, hkeys⟩ hnext (show ls.length < fuel by omega)
    rw [List.append_assoc, List.singleton_append] at hread
    exact hread

theorem entryValues_map_node (ls : List PlainLine) :
    entryValues (ls.map PlainLine.node) = ls.map PlainLine.entry := by
  induction ls with
  | nil => rw [List.map_nil, List.map_nil, entryValues]
  | cons l ls ih =>
    rw [List.map_cons, PlainLine.node, entryValues, ih, Node.toValue]
    rfl

theorem length_le_length_chars (ls : List PlainLine) :
    ls.length ≤ (ls.flatMap PlainLine.chars).length := by
  induction ls with
  | nil => exact Nat.zero_le _
  | cons l ls ih =>
    have hchars : 1 ≤ l.chars.length := by
      rw [PlainLine.chars, List.length_append]
      exact Nat.le_add_left 1 _
    rw [List.flatMap_cons, List.length_append, List.length_cons]
    omega

/-- **A document of plain lines is the table of their keys and values.** -/
theorem parse_plainLines {ls : List PlainLine} (h : IsPlain ls) :
    parse (String.ofList (ls.flatMap PlainLine.chars)) =
      some (.table (ls.map PlainLine.entry)) := by
  have hmark : skipMark (ls.flatMap PlainLine.chars) = ls.flatMap PlainLine.chars := by
    cases ls with
    | nil => rfl
    | cons l ls =>
      obtain ⟨c, cs, hk, hc⟩ := (h.sound l List.mem_cons_self).key.exists_cons
      rw [List.flatMap_cons, PlainLine.chars, hk]
      unfold skipMark
      split
      case h_1 heq => exact absurd (List.cons.inj heq).1 (ne_of_isBare hc rfl)
      case h_2 => rfl
  have hnone : ∀ l ∈ ls, Entries.find? [] l.key = none := fun _ _ => rfl
  have hread := lines_plainLines h hnone (Nat.lt_succ_of_le (length_le_length_chars ls))
  rw [parse, String.toList_ofList, hmark]
  simp only [hread, Option.map_some, List.nil_append, entryValues_map_node]

end Blitter.Toml.Document
