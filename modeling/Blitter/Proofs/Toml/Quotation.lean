import Blitter.Toml.Quotation
import Mathlib.Data.List.Basic
import Mathlib.Data.List.Infix

/-!
# Quoted strings are read back

Whatever way of quoting is chosen for a string, **the string is read back from its quotes**
(`Quotation.readString_of_write?`). A string with escapes is read back whatever it consists of:
`Escape` says which characters stand for one of its characters, and both readers take such a piece
at once. Strings without escapes need what the choice of them looks for: no control characters,
and no run of quotes that would close them.

Over several lines up to two quotes may stand by themselves. The last ones of a string are then
not told from the quotes that close it, and the reader takes them together.
-/

namespace Blitter.Toml

open Text

/-! ### Runs of a character -/

namespace Quotation

/-- A run **does not go on** where another character stands. -/
theorem not_replicate_prefix_cons {q c : Char} (hc : c ≠ q) (k : Nat) (cs : List Char) :
    ¬ List.replicate (k + 1) q <+: c :: cs := by
  rw [List.replicate_succ, List.cons_prefix_cons]
  exact fun h => hc h.1.symm

theorem replicate_infix_append_cons_iff {q c : Char} (hc : c ≠ q) {k run : Nat} (hrun : run ≤ k)
    {cs : List Char} :
    List.replicate (k + 1) q <:+: List.replicate run q ++ c :: cs ↔
      List.replicate (k + 1) q <:+: cs := by
  constructor
  · intro h
    rcases List.infix_append_iff.mp h with hbefore | hafter | ⟨t, u, hsplit, ht, hu⟩
    · have hlength := hbefore.length_le
      rw [List.length_replicate, List.length_replicate] at hlength
      omega
    · exact (List.infix_cons_iff.mp hafter).resolve_left (not_replicate_prefix_cons hc k cs)
    · obtain ⟨hlength, -, hreplicate⟩ := List.replicate_eq_append_iff.mp hsplit
      have htlength := ht.length_le
      rw [List.length_replicate] at htlength
      obtain ⟨n, hn⟩ : ∃ n, u.length = n + 1 := ⟨u.length - 1, by omega⟩
      rw [hn] at hreplicate
      exact absurd (hreplicate ▸ hu) (not_replicate_prefix_cons hc n cs)
  · intro h
    exact List.infix_append_of_infix_right (List.infix_cons h)

/-- The longest run is as long as **the longest one that stands in the text**. -/
theorem longestRun_le_iff {q : Char} {k : Nat} (cs : List Char) {run best : Nat}
    (hbest : run ≤ best) :
    longestRun q run best cs ≤ k ↔
      best ≤ k ∧ ¬ List.replicate (k + 1) q <:+: List.replicate run q ++ cs := by
  induction cs generalizing run best with
  | nil =>
    rw [longestRun, List.append_nil]
    constructor
    · intro h
      refine ⟨h, fun hinfix => ?_⟩
      have hlength := hinfix.length_le
      rw [List.length_replicate, List.length_replicate] at hlength
      omega
    · exact And.left
  | cons c cs ih =>
    rw [longestRun]
    split
    case isTrue hc =>
      obtain rfl := hc
      rw [ih (Nat.le_max_right ..), List.replicate_succ' (n := run), List.append_assoc,
        List.singleton_append, Nat.max_le]
      constructor
      · rintro ⟨⟨hle, -⟩, hinfix⟩
        exact ⟨hle, hinfix⟩
      · rintro ⟨hle, hinfix⟩
        refine ⟨⟨hle, ?_⟩, hinfix⟩
        by_contra hlong
        -- the run so far is too long with the next character
        have hrun : List.replicate (k + 1) c <:+: List.replicate (run + 1) c := by
          have hsplit : run + 1 = (k + 1) + (run - k) := by omega
          rw [hsplit, List.replicate_add (k + 1)]
          exact List.infix_append_left
        rw [List.replicate_succ' (n := run)] at hrun
        refine hinfix ?_
        rw [← List.singleton_append, ← List.append_assoc]
        exact List.infix_append_of_infix_left hrun
    case isFalse hc =>
      rw [ih (Nat.zero_le _), List.replicate_zero, List.nil_append]
      constructor
      · rintro ⟨hle, hinfix⟩
        exact ⟨hle, fun h => hinfix ((replicate_infix_append_cons_iff hc (by omega)).mp h)⟩
      · rintro ⟨hle, hinfix⟩
        exact ⟨hle, fun h => hinfix ((replicate_infix_append_cons_iff hc (by omega)).mpr h)⟩

end Quotation

/-! ### Pieces of a string with escapes -/

theorem length_hexDigits_le {n : Nat} (h : n < 0x100) : (hexDigits .upper n).length ≤ 2 := by
  rw [hexDigits]
  split
  · simp
  · rw [hexDigits, if_pos (by omega)]
    simp

/-- The number of a control character has **four digits**. -/
theorem exists_hexChars_eq {n : Nat} (h : n < 0x100) :
    ∃ a b x y, hexChars .upper 4 n = [a, b, x, y] := by
  have hlength : (hexChars .upper 4 n).length = 4 := by
    have hdigits := length_hexDigits_le h
    rw [hexChars, List.length_append, List.length_replicate]
    omega
  exact List.length_eq_four.mp hlength

theorem numbered?_hexChars (width : Nat) (c : Char) :
    numbered? (hexChars .upper width c.toNat) = some c := by
  rw [numbered?, readHex?_hexChars]
  exact dif_pos c.valid

/-- A character that may stand in a string **starts no newline**. -/
theorem newline?_cons_of_isPlain {c : Char} (h : isPlain c = true) (s : List Char) :
    newline? (c :: s) = none := by
  unfold newline?
  split
  case h_1 heq =>
    obtain ⟨rfl, -⟩ := List.cons.inj heq
    cases h
  case h_2 heq =>
    obtain ⟨rfl, -⟩ := List.cons.inj heq
    cases h
  case h_3 => rfl

/-- The characters **stand for** one character of a string with escapes, over several lines if
`long` says so. -/
inductive Escape (long : Bool) (c : Char) : List Char → Prop
  | letter {e : Char} (h : escaped? e = some c) : Escape long c ['\\', e]
  | number {a b x y : Char} (h : numbered? [a, b, x, y] = some c) :
      Escape long c ['\\', 'u', a, b, x, y]
  | plain (hplain : isPlain c = true) (hquote : c ≠ '"') (hescape : c ≠ '\\') :
      Escape long c [c]
  | line (hlong : long = true) (hc : c = '\n') : Escape long c ['\n']

namespace Escape

variable {long : Bool} {c : Char} {piece : List Char}

/-- What stands for a character **does not start with a quote**. -/
theorem append_ne_cons (h : Escape long c piece) (s t : List Char) : piece ++ s ≠ '"' :: t := by
  cases h with
  | letter | number | line => simp
  | plain _ hquote _ => exact fun heq => hquote (List.cons.inj heq).1

theorem newline?_append (h : Escape long c piece) (hc : c ≠ '\n') (s : List Char) :
    newline? (piece ++ s) = none := by
  cases h with
  | letter | number => rfl
  | plain hplain _ _ => exact newline?_cons_of_isPlain hplain s
  | line _ hline => exact absurd hline hc

/-- A piece is read **as the character** it stands for. -/
theorem readBasic_append (h : Escape false c piece) (s : List Char) :
    readBasic (piece ++ s) = consRead c (readBasic s) := by
  cases h with
  | letter h =>
    rw [List.cons_append, List.singleton_append, readBasic, h, Option.bind_some]
    · rintro a b x y t rfl
      cases h
    · rintro a b x y a' b' x' y' t rfl
      cases h
  | number h => simp [readBasic, h]
  | plain hplain hquote hescape =>
    rw [List.singleton_append, readBasic, if_pos (by simp [hplain, hescape])]
    · exact hquote
    · exact fun _ _ _ _ _ hc => absurd hc hescape
    · exact fun _ _ _ _ _ _ _ _ _ hc => absurd hc hescape
    · exact fun _ _ hc => absurd hc hescape
  | line hlong _ => cases hlong

theorem readLongBasic_append (h : Escape true c piece) (s : List Char) :
    readLongBasic false (piece ++ s) = consRead c (readLongBasic false s) := by
  cases h with
  | @letter e h =>
    have hline : newline? (skipSpaces (e :: s)) = none := by
      unfold escaped? at h
      split at h
      case h_8 => cases h
      all_goals rfl
    have hu : e ≠ 'u' := by
      rintro rfl
      cases h
    have hU : e ≠ 'U' := by
      rintro rfl
      cases h
    rw [List.cons_append, List.singleton_append]
    -- a backslash at the end of a line would be read in another way
    by_cases hs : ∃ t, s = '\n' :: t
    · obtain ⟨t, rfl⟩ := hs
      rw [readLongBasic.eq_10, hline, h]
      · rfl
      · exact fun _ _ _ _ _ he => absurd he hu
      · exact fun _ _ _ _ _ _ _ _ _ he => absurd he hU
    · rw [readLongBasic, hline, h]
      · rfl
      · exact fun _ _ _ _ _ he => absurd he hu
      · exact fun _ _ _ _ _ _ _ _ _ he => absurd he hU
      · exact fun t ht => hs ⟨t, ht⟩
  | number h => simp [readLongBasic, h]
  | plain hplain hquote hescape =>
    have hreturn : c ≠ '\r' := by
      rintro rfl
      cases hplain
    have hline : c ≠ '\n' := by
      rintro rfl
      cases hplain
    rw [List.singleton_append, readLongBasic, if_neg (by simp), if_pos (by simp [hplain, hescape])]
    all_goals simp [hquote, hescape, hreturn, hline]
  | line _ hc =>
    obtain rfl := hc
    simp [readLongBasic]

end Escape

namespace Quotation

/-- Every character but the quote is written as **a piece that stands for it**. -/
theorem escape_escapeChar {long : Bool} {c : Char} (hquote : c ≠ '"') :
    Escape long c (escapeChar long c) := by
  unfold escapeChar
  split
  case isTrue h => exact h ▸ .letter rfl
  split
  case isTrue h => exact h ▸ .letter rfl
  split
  case isTrue h =>
    obtain rfl := h
    cases long with
    | false => exact .letter rfl
    | true => exact .line rfl rfl
  split
  case isTrue h => exact h ▸ .letter rfl
  split
  case isTrue h => exact h ▸ .letter rfl
  split
  case isTrue h =>
    obtain rfl := h
    exact .letter rfl
  case isFalse hescape =>
    split
    case isTrue h =>
      obtain ⟨a, b, x, y, hdigits⟩ := exists_hexChars_eq (n := c.toNat) (by omega)
      rw [hdigits]
      exact .number (hdigits ▸ numbered?_hexChars 4 c)
    case isFalse h =>
      refine .plain ?_ hquote hescape
      simp only [isPlain, isWide, Bool.or_eq_true, Bool.and_eq_true, decide_eq_true_eq]
      omega

/-! ### Strings with escapes -/

/-- What is written of a string starts with a quote **only where one may stand by itself**. -/
theorem escapedChars_append_ne_cons {quotes : Nat} {long : Bool} {c : Char}
    (h : c = '"' → (long && quotes < 2) = false) (cs s t : List Char) :
    escapedChars long quotes (c :: cs) ++ s ≠ '"' :: t := by
  rw [escapedChars]
  by_cases hc : c = '"'
  · rw [if_pos hc, if_neg (Bool.eq_false_iff.mp (h hc))]
    simp
  · rw [if_neg hc, List.append_assoc]
    exact (escape_escapeChar hc).append_ne_cons _ t

theorem escape_quote {long : Bool} : Escape long '"' ['\\', '"'] := .letter rfl

/-- **A string on one line is read back.** -/
theorem readBasic_escapedChars (quotes : Nat) (cs s : List Char) :
    readBasic (escapedChars false quotes cs ++ '"' :: s) = some (cs, s) := by
  induction cs generalizing quotes with
  | nil => simp [escapedChars, readBasic]
  | cons c cs ih =>
    rw [escapedChars]
    by_cases hc : c = '"'
    · obtain rfl := hc
      rw [if_pos rfl, if_neg (by simp)]
      have hread := escape_quote.readBasic_append (escapedChars false 0 cs ++ '"' :: s)
      rw [ih] at hread
      exact hread
    · rw [if_neg hc, List.append_assoc, (escape_escapeChar hc).readBasic_append, ih]
      rfl

/-- Two quotes in a row are followed by **none that stands by itself**. -/
theorem escapedChars_append_ne_cons_cons {quotes : Nat} {c : Char} {cs : List Char}
    (h : ¬ (c = '"' ∧ quotes = 0 ∧ cs = [])) (hquotes : quotes < 2) (s t : List Char) :
    escapedChars true (quotes + 1) (c :: cs) ++ s ≠ '"' :: '"' :: t := by
  by_cases hone : c = '"' ∧ quotes = 0
  · obtain ⟨rfl, rfl⟩ := hone
    cases cs with
    | nil => exact absurd ⟨rfl, rfl, rfl⟩ h
    | cons d ds =>
      have hnext : escapedChars true 2 (d :: ds) ++ s ≠ '"' :: t :=
        escapedChars_append_ne_cons (fun _ => rfl) ds s t
      intro heq
      exact hnext (List.cons.inj heq).2
  · refine escapedChars_append_ne_cons (fun hc => ?_) cs s _
    have hpositive : quotes ≠ 0 := fun hzero => hone ⟨hc, hzero⟩
    simp only [Bool.true_and, decide_eq_false_iff_not]
    omega

/-- **A string over several lines is read back.** -/
theorem readLongBasic_escapedChars (quotes : Nat) (cs : List Char) {s : List Char}
    (hs : ∀ t, s ≠ '"' :: t) :
    readLongBasic false (escapedChars true quotes cs ++ '"' :: '"' :: '"' :: s) =
      some (cs, s) := by
  induction cs generalizing quotes with
  | nil =>
    rw [escapedChars, List.nil_append, readLongBasic]
    · exact fun t ht => hs _ ht
    · exact fun t ht => hs _ ht
  | cons c cs ih =>
    rw [escapedChars]
    by_cases hc : c = '"'
    case neg =>
      rw [if_neg hc, List.append_assoc, (escape_escapeChar hc).readLongBasic_append, ih]
      rfl
    case pos =>
      obtain rfl := hc
      rw [if_pos rfl]
      split
      case isFalse =>
        have hread := escape_quote.readLongBasic_append
          (escapedChars true 0 cs ++ '"' :: '"' :: '"' :: s)
        rw [ih] at hread
        exact hread
      case isTrue hquotes =>
        -- the last one or two quotes are read together with those that close the string
        cases cs with
        | nil =>
          rw [escapedChars, List.singleton_append, readLongBasic]
          exact fun t ht => hs _ ht
        | cons d ds =>
          by_cases hlast : d = '"' ∧ quotes = 0 ∧ ds = []
          · obtain ⟨rfl, rfl, rfl⟩ := hlast
            exact readLongBasic.eq_2 false s
          · have htwo := escapedChars_append_ne_cons_cons hlast (by simpa using hquotes)
              ('"' :: '"' :: '"' :: s)
            rw [List.cons_append, readLongBasic, ih]
            · rfl
            · exact fun t => htwo _
            · exact fun t => htwo _
            · exact fun t => htwo _

/-! ### Strings without escapes -/

/-- The characters of a string without escapes: **no control characters**. -/
theorem isPlain_of_isControl_eq_false {c : Char} (h : isControl c = false) (hline : c ≠ '\n') :
    isPlain c = true := by
  have hcodes : c = '\t' ∨ (0x20 ≤ c.toNat ∧ c.toNat ≠ 0x7F) := by
    simp only [isControl, Bool.and_eq_false_iff, Bool.or_eq_false_iff, bne_eq_false_iff_eq,
      decide_eq_false_iff_not, beq_eq_false_iff_ne] at h
    rcases h with (h | h) | h
    · exact .inl h
    · exact absurd h hline
    · exact .inr ⟨by omega, h.2⟩
  simp only [isPlain, isWide, Bool.or_eq_true, Bool.and_eq_true, decide_eq_true_eq, beq_iff_eq]
  rcases hcodes with htab | hcodes
  · exact .inl (.inl htab)
  · omega

/-- **A literal string on one line is read back.** -/
theorem readLiteral_append {cs : List Char} (hplain : ∀ c ∈ cs, isPlain c = true)
    (hquote : '\'' ∉ cs) (s : List Char) : readLiteral (cs ++ '\'' :: s) = some (cs, s) := by
  induction cs with
  | nil => rw [List.nil_append, readLiteral]
  | cons c cs ih =>
    obtain ⟨hc, hcs⟩ := List.forall_mem_cons.mp hplain
    obtain ⟨hne, hnone⟩ := not_or.mp (List.mem_cons.not.mp hquote)
    rw [List.cons_append, readLiteral, if_pos hc, ih hcs hnone]
    · rfl
    · exact fun heq => hne heq.symm

/-- **A literal string over several lines is read back**, if it has no three quotes in a row. -/
theorem readLongLiteral_append {cs : List Char} (hplain : ∀ c ∈ cs, isPlain c = true ∨ c = '\n')
    (hruns : ¬ ['\'', '\'', '\''] <:+: cs) {s : List Char} (hs : ∀ t, s ≠ '\'' :: t) :
    readLongLiteral (cs ++ '\'' :: '\'' :: '\'' :: s) = some (cs, s) := by
  induction cs with
  | nil =>
    rw [List.nil_append, readLongLiteral]
    · exact fun t ht => hs _ ht
    · exact fun t ht => hs _ ht
  | cons c cs ih =>
    obtain ⟨hc, hcs⟩ := List.forall_mem_cons.mp hplain
    have hread := ih hcs fun h => hruns (List.infix_cons h)
    have hreturn : c ≠ '\r' := by
      rintro rfl
      rcases hc with hc | hc <;> cases hc
    have hstands : (isPlain c || c == '\n') = true := by simpa using hc
    by_cases hlast : c = '\'' ∧ (cs = [] ∨ cs = ['\''])
    · -- the last one or two quotes are read together with those that close the string
      obtain ⟨rfl, rfl | rfl⟩ := hlast
      · rw [List.singleton_append, readLongLiteral]
        exact fun t ht => hs _ ht
      · exact readLongLiteral.eq_2 s
    · have htwo : c = '\'' → ∀ t, cs ++ '\'' :: '\'' :: '\'' :: s ≠ '\'' :: '\'' :: t := by
        rintro rfl t heq
        match cs with
        | [] => exact hlast ⟨rfl, .inl rfl⟩
        | [d] =>
          obtain rfl := (List.cons.inj heq).1
          exact hlast ⟨rfl, .inr rfl⟩
        | d :: e :: es =>
          simp only [List.cons_append, List.cons.injEq] at heq
          obtain ⟨rfl, rfl, -⟩ := heq
          exact hruns ⟨[], es, rfl⟩
      rw [List.cons_append, readLongLiteral, if_pos hstands, hread]
      · rfl
      · exact fun t hq => htwo hq _
      · exact fun t hq => htwo hq _
      · exact fun t hq => htwo hq _
      · exact fun t hr => absurd hr hreturn

/-! ### The way of quoting -/

theorem isPlain_or_of_any_isControl {cs : List Char} (h : cs.any isControl = false) :
    ∀ c ∈ cs, isPlain c = true ∨ c = '\n' := by
  intro c hc
  by_cases hline : c = '\n'
  · exact .inr hline
  · have hcontrol := List.any_eq_false.mp h c hc
    exact .inl (isPlain_of_isControl_eq_false (Bool.eq_false_iff.mpr hcontrol) hline)

/-- A literal string on one line holds **no control character, quote or newline**. -/
theorem of_choose_eq_literal {cs : List Char} (h : choose cs = literal) :
    (∀ c ∈ cs, isPlain c = true) ∧ '\'' ∉ cs := by
  have hchosen : cs.any isControl = false ∧ longestRun '\'' 0 0 cs = 0 ∧
      cs.contains '\n' = false := by
    unfold choose at h
    simp only at h
    split_ifs at h
    case _ hchosen => simpa [and_assoc] using hchosen
  obtain ⟨hcontrol, hsingles, hlines⟩ := hchosen
  constructor
  · intro c hc
    refine (isPlain_or_of_any_isControl hcontrol c hc).resolve_right ?_
    rintro rfl
    rw [List.contains_iff_mem.mpr hc] at hlines
    cases hlines
  · intro hquote
    have hrun := ((longestRun_le_iff cs (Nat.le_refl 0)).mp (Nat.le_of_eq hsingles)).2
    exact hrun ((List.singleton_infix_iff '\'' cs).mpr hquote)

theorem of_choose_eq_longLiteral {cs : List Char} (h : choose cs = longLiteral) :
    (∀ c ∈ cs, isPlain c = true ∨ c = '\n') ∧ ¬ ['\'', '\'', '\''] <:+: cs := by
  have hchosen : cs.any isControl = false ∧ longestRun '\'' 0 0 cs ≤ 2 := by
    unfold choose at h
    simp only at h
    split_ifs at h
    case _ hchosen => simpa using hchosen
  obtain ⟨hcontrol, hsingles⟩ := hchosen
  exact ⟨isPlain_or_of_any_isControl hcontrol,
    ((longestRun_le_iff cs (Nat.le_refl 0)).mp hsingles).2⟩

/-! ### Reading what was written -/

/-- The line that a string starts on is passed over **only if it was put there**. -/
theorem newline?_escapedChars {cs : List Char} (h : '\n' ∉ cs) (s : List Char) :
    newline? (escapedChars true 0 cs ++ '"' :: s) = none := by
  cases cs with
  | nil => rfl
  | cons c cs =>
    rw [escapedChars]
    by_cases hc : c = '"'
    · rw [if_pos hc]
      rfl
    · rw [if_neg hc]
      rw [List.append_assoc]
      refine (escape_escapeChar hc).newline?_append (fun hline => ?_) _
      exact h (hline ▸ List.mem_cons_self)

theorem newline?_literal {cs : List Char} (hplain : ∀ c ∈ cs, isPlain c = true ∨ c = '\n')
    (h : '\n' ∉ cs) (s : List Char) : newline? (cs ++ '\'' :: s) = none := by
  cases cs with
  | nil => rfl
  | cons c cs =>
    have hc := (hplain c List.mem_cons_self).resolve_right fun hline =>
      h (hline ▸ List.mem_cons_self)
    exact newline?_cons_of_isPlain hc _

/-- What follows the closing quotes of a string: **no other quote**. -/
def IsAfter (s : List Char) : Prop := s.head? ≠ some '"' ∧ s.head? ≠ some '\''

/-- **A string on one line with its quotes is read back**, unless another quote follows. -/
theorem readString_basic (cs : List Char) {s : List Char} (hs : ∀ t, s ≠ '"' :: t) :
    readString (delimiter .basic ++ body .basic cs ++ delimiter .basic ++ s) = some (cs, s) := by
  have hone : ∀ t, escapedChars false 0 cs ++ '"' :: s ≠ '"' :: '"' :: t := by
    intro t heq
    cases cs with
    | nil => exact hs t (List.cons.inj heq).2
    | cons c cs => exact escapedChars_append_ne_cons (fun _ => rfl) cs _ _ heq
  simp only [delimiter, body, List.cons_append, List.nil_append, List.append_assoc]
  rw [readString, readBasic_escapedChars]
  exact hone

/-- **A string is read back from the quotes that are chosen for it.** -/
theorem readString_choose (cs : List Char) {s : List Char} (hs : IsAfter s) :
    readString ((choose cs).delimiter ++ (choose cs).body cs ++ (choose cs).delimiter ++ s) =
      some (cs, s) := by
  have hdouble : ∀ t, s ≠ '"' :: t := by
    rintro t rfl
    exact hs.1 rfl
  have hsingle : ∀ t, s ≠ '\'' :: t := by
    rintro t rfl
    exact hs.2 rfl
  cases hq : choose cs with
  | basic => exact readString_basic cs hdouble
  | literal =>
    obtain ⟨hplain, hquote⟩ := of_choose_eq_literal hq
    have hone : ∀ t, cs ++ '\'' :: s ≠ '\'' :: '\'' :: t := by
      intro t heq
      cases cs with
      | nil => exact hsingle t (List.cons.inj heq).2
      | cons c cs => exact hquote ((List.cons.inj heq).1 ▸ List.mem_cons_self)
    simp only [delimiter, body, List.cons_append, List.nil_append, List.append_assoc]
    rw [readString, readLiteral_append hplain hquote]
    exact hone
  | longBasic =>
    simp only [delimiter, body, List.cons_append, List.nil_append, List.append_assoc]
    rw [readString]
    split
    case isTrue =>
      exact readLongBasic_escapedChars 0 cs hdouble
    case isFalse hline =>
      rw [skipFirstNewline, newline?_escapedChars (by simpa using hline)]
      exact readLongBasic_escapedChars 0 cs hdouble
  | longLiteral =>
    obtain ⟨hplain, hruns⟩ := of_choose_eq_longLiteral hq
    simp only [delimiter, body, List.cons_append, List.nil_append, List.append_assoc]
    rw [readString]
    split
    case isTrue =>
      exact readLongLiteral_append hplain hruns hsingle
    case isFalse hline =>
      rw [skipFirstNewline, newline?_literal hplain (by simpa using hline)]
      exact readLongLiteral_append hplain hruns hsingle

/-- Neither of the two quotes stands more often in a row than **can be written**. -/
def RunsFit (cs : List Char) : Prop :=
  ∀ q ∈ ['\'', '"'], ¬ List.replicate (runLimit + 1) q <:+: cs

/-- Exactly the strings **without too long a run of quotes** are written. -/
theorem isSome_write?_iff {cs : List Char} : (write? cs).isSome ↔ RunsFit cs := by
  have hrun : ∀ q : Char, ¬ runLimit < longestRun q 0 0 cs ↔
      ¬ List.replicate (runLimit + 1) q <:+: cs := by
    intro q
    rw [Nat.not_lt, longestRun_le_iff cs (Nat.le_refl 0), List.replicate_zero, List.nil_append]
    exact and_iff_right (Nat.zero_le _)
  rw [RunsFit, List.forall_mem_cons, List.forall_mem_singleton, ← hrun, ← hrun, ← not_or, write?]
  split
  case isTrue h => simp [h]
  case isFalse h => simp [h]

/-- Short strings have no long run. -/
theorem runsFit_of_length_le {cs : List Char} (h : cs.length ≤ runLimit) : RunsFit cs := by
  intro q _ hinfix
  have hle := hinfix.length_le
  rw [List.length_replicate] at hle
  omega

/-- What is written **starts with a quote**. -/
theorem exists_cons_of_write? {cs t : List Char} (h : write? cs = some t) :
    ∃ q rest, t = q :: rest ∧ (q = '"' ∨ q = '\'') := by
  unfold write? at h
  split at h
  case isTrue => cases h
  case isFalse =>
    obtain rfl := Option.some.inj h
    cases choose cs with
    | basic | longBasic => exact ⟨'"', _, rfl, .inl rfl⟩
    | literal | longLiteral => exact ⟨'\'', _, rfl, .inr rfl⟩

/-- **A string that was written is read back.** -/
theorem readString_of_write? {cs t : List Char} (h : write? cs = some t) {s : List Char}
    (hs : IsAfter s) : readString (t ++ s) = some (cs, s) := by
  unfold write? at h
  split at h
  case isTrue => cases h
  case isFalse =>
    obtain rfl := Option.some.inj h
    exact readString_choose cs hs

end Quotation

end Blitter.Toml
