import Blitter.Proofs.Toml.Document
import Blitter.Toml.Codec

/-!
# Records that are read back

What is asked of a codec (`Codec.IsFaithful`): a record whose numbers have room is written so that
it is read back, with the fields left out that hold nothing, and one with a number that has no room
is turned down. A codec that writes plain lines is faithful if it puts every string between quotes
from which the string is read back (`Codec.isFaithful_quoting`). The standard one does that for
every string without a long run of quotes, and no other (`Codec.exists_write_standard_iff`).
-/

namespace Blitter.Toml

open Data Document

/-- The names of the fields are **keys without quotes**, and differ. -/
structure IsKeyed (r : Record) : Prop where
  bare : ∀ field ∈ r.fields, IsBareKey field.1
  nodup : (r.fields.map Prod.fst).Nodup

/-- The record is written, and what is written is read as **a table with its values** and no
others. -/
def Codec.Keeps (t : Codec) (r : Record) : Prop :=
  ∃ text entries, t.write r = .ok text ∧ t.parse text = some (.table entries) ∧
    ∀ name, entries.lookup name = r.value? name

/-- What a **reader and a writer of the format** do: a record whose numbers have room is kept, and
any other is turned down. -/
structure Codec.IsFaithful (t : Codec) : Prop where
  keeps : ∀ r, IsKeyed r → (∀ field ∈ r.present, HasRoom field.2) → t.Keeps r
  rejects : ∀ r, ¬ (∀ field ∈ r.present, HasRoom field.2) → ∃ fault, t.write r = .error fault

/-! ### Fields -/

/-- A field that holds something, with its value. -/
def entryOf (field : String × Item) : String × Value := (field.1, field.2.value)

/-- The names of the fields that hold anything are **among all names**, in order. -/
theorem sublist_map_fst_present (r : Record) :
    (r.present.map Prod.fst).Sublist (r.fields.map Prod.fst) := by
  obtain ⟨fields⟩ := r
  induction fields with
  | nil => exact .slnil
  | cons field fields ih =>
    obtain ⟨name, _ | item⟩ := field
    · exact ih.cons name
    · exact ih.cons_cons name

/-- The fields that hold anything have **the values of the record** under their names. -/
theorem lookup_map_entryOf_present {r : Record} (hnodup : (r.fields.map Prod.fst).Nodup)
    (name : String) : (r.present.map entryOf).lookup name = r.value? name := by
  obtain ⟨fields⟩ := r
  induction fields with
  | nil => rfl
  | cons field fields ih =>
    obtain ⟨other, item⟩ := field
    obtain ⟨hnew, hothers⟩ := List.nodup_cons.mp hnodup
    by_cases hname : name = other
    · obtain rfl := hname
      have hfound : Record.value? ⟨(name, item) :: fields⟩ name = item.map Item.value := by
        rw [Record.value?, List.lookup_cons_self]
        rfl
      cases item with
      | none =>
        -- no other field has the name, so that nothing is found
        have hnone : fields.lookup name = none := by
          refine List.lookup_eq_none_iff.mpr fun field hfield => bne_iff_ne.mpr fun heq => hnew ?_
          have hmem : field.1 ∈ fields.map Prod.fst := List.mem_map_of_mem hfield
          rwa [← heq] at hmem
        rw [Record.present_cons_none, ih hothers, hfound, Record.value?, hnone]
        rfl
      | some item =>
        rw [Record.present_cons_some, hfound, List.map_cons, entryOf]
        exact List.lookup_cons_self
    · have hother : (name == other) = false := beq_false_of_ne hname
      have hpassed : Record.value? ⟨(other, item) :: fields⟩ name =
          Record.value? ⟨fields⟩ name := by
        rw [Record.value?, List.lookup_cons, hother]
        rfl
      rw [hpassed, ← ih hothers]
      cases item with
      | none => rfl
      | some item => rw [Record.present_cons_some, List.map_cons, entryOf, List.lookup_cons, hother]

/-! ### Lines -/

section Quoting

variable {quote : List Char → Option (List Char)}

/-- A string is **read back from the quotes** between which it is put. -/
def IsSoundQuoting (quote : List Char → Option (List Char)) : Prop :=
  ∀ s : String, ∀ text, quote s.toList = some text → Shows text (.string s)

/-- The text of an item **shows its value**. -/
theorem shows_itemText (hquote : IsSoundQuoting quote) {item : Item} (hroom : HasRoom item)
    {text : List Char} (h : itemText? quote item = some text) : Shows text item.value := by
  cases item with
  | string s => exact hquote s text h
  | integer n =>
    obtain rfl := Option.some.inj h
    exact shows_integer hroom

/-- The lines of fields are **plain lines** with their values. -/
theorem exists_plainLines (hquote : IsSoundQuoting quote) {fields : List (String × Item)}
    (hbare : ∀ field ∈ fields, IsBareKey field.1) (hroom : ∀ field ∈ fields, HasRoom field.2)
    {lines : List Char} (h : fieldLines? quote fields = some lines) :
    ∃ ls : List PlainLine, (∀ l ∈ ls, l.IsSound) ∧ ls.map PlainLine.entry = fields.map entryOf ∧
      ls.flatMap PlainLine.chars = lines := by
  induction fields generalizing lines with
  | nil =>
    obtain rfl := Option.some.inj h
    exact ⟨[], fun _ hl => absurd hl List.not_mem_nil, rfl, rfl⟩
  | cons field fields ih =>
    obtain ⟨name, item⟩ := field
    obtain ⟨hname, hbare⟩ := List.forall_mem_cons.mp hbare
    obtain ⟨hitem, hroom⟩ := List.forall_mem_cons.mp hroom
    simp only [fieldLines?, Option.bind_eq_bind, Option.bind_eq_some_iff] at h
    obtain ⟨text, htext, rest, hrest, h⟩ := h
    obtain rfl := Option.some.inj h
    obtain ⟨ls, hsound, hentries, rfl⟩ := ih hbare hroom hrest
    refine ⟨⟨name, text, item.value⟩ :: ls, List.forall_mem_cons.mpr ⟨?_, hsound⟩, ?_, rfl⟩
    · exact ⟨hname, shows_itemText hquote hitem htext⟩
    · rw [List.map_cons, List.map_cons, hentries]
      rfl

/-- There are lines for fields **if there is a text for each item**. -/
theorem isSome_fieldLines?_iff {fields : List (String × Item)} :
    (fieldLines? quote fields).isSome ↔
      ∀ field ∈ fields, (itemText? quote field.2).isSome := by
  induction fields with
  | nil => exact iff_of_true rfl fun _ h => absurd h List.not_mem_nil
  | cons field fields ih =>
    obtain ⟨name, item⟩ := field
    rw [List.forall_mem_cons, ← ih, fieldLines?]
    cases itemText? quote item <;> cases fieldLines? quote fields <;> simp

theorem fieldLines?_congr {quote' : List Char → Option (List Char)} {fields : List (String × Item)}
    (h : ∀ field ∈ fields, itemText? quote field.2 = itemText? quote' field.2) :
    fieldLines? quote fields = fieldLines? quote' fields := by
  induction fields with
  | nil => rfl
  | cons field fields ih =>
    obtain ⟨hfield, hfields⟩ := List.forall_mem_cons.mp h
    rw [fieldLines?, fieldLines?, hfield, ih hfields]

/-! ### Codecs -/

/-- A record is **written** if its numbers have room and its strings can be put between quotes. -/
theorem Codec.exists_write_quoting_iff {r : Record} :
    (∃ text, (Codec.quoting quote).write r = .ok text) ↔
      (∀ field ∈ r.present, HasRoom field.2) ∧
        ∀ field ∈ r.present, (itemText? quote field.2).isSome := by
  rw [← isSome_fieldLines?_iff, quoting]
  unfold writeRecord
  by_cases hroom : ∀ field ∈ r.present, HasRoom field.2
  · simp only [if_pos hroom]
    cases fieldLines? quote r.present with
    | some lines => exact iff_of_true ⟨_, rfl⟩ ⟨hroom, rfl⟩
    | none => exact iff_of_false nofun nofun
  · simp only [if_neg hroom]
    exact iff_of_false nofun fun h => hroom h.1

/-- A record that is written **is kept**. -/
theorem Codec.keeps_quoting_of_write (hquote : IsSoundQuoting quote) {r : Record} (hr : IsKeyed r)
    {text : String} (h : (Codec.quoting quote).write r = .ok text) :
    (Codec.quoting quote).Keeps r := by
  obtain ⟨hroom, hsome⟩ := exists_write_quoting_iff.mp ⟨text, h⟩
  obtain ⟨lines, hlines⟩ := Option.isSome_iff_exists.mp (isSome_fieldLines?_iff.mpr hsome)
  have hbare : ∀ field ∈ r.present, IsBareKey field.1 := by
    intro field hfield
    have hname := (sublist_map_fst_present r).subset (List.mem_map_of_mem hfield)
    obtain ⟨named, hnamed, heq⟩ := List.mem_map.mp hname
    exact heq ▸ hr.bare named hnamed
  obtain ⟨ls, hsound, hentries, rfl⟩ := exists_plainLines hquote hbare hroom hlines
  have hkeys : (ls.map PlainLine.key).Nodup := by
    have hnames : ls.map PlainLine.key = r.present.map Prod.fst := by
      have hfst := congrArg (List.map Prod.fst) hentries
      rwa [List.map_map, List.map_map] at hfst
    rw [hnames]
    exact (sublist_map_fst_present r).nodup hr.nodup
  refine ⟨String.ofList (ls.flatMap PlainLine.chars), r.present.map entryOf, ?_, ?_,
    lookup_map_entryOf_present hr.nodup⟩
  · simp only [quoting, writeRecord, if_pos hroom, hlines]
  · rw [← hentries]
    exact parse_plainLines ⟨hsound, hkeys⟩

/-- **A codec that can put every string between quotes is faithful.** -/
theorem Codec.isFaithful_quoting (hquote : IsSoundQuoting quote)
    (hsome : ∀ cs, (quote cs).isSome) : (Codec.quoting quote).IsFaithful where
  keeps r hr hroom := by
    have htexts : ∀ field ∈ r.present, (itemText? quote field.2).isSome := by
      intro field _
      cases field.2 with
      | string s => exact hsome s.toList
      | integer n => rfl
    obtain ⟨text, hwrite⟩ := exists_write_quoting_iff.mpr ⟨hroom, htexts⟩
    exact keeps_quoting_of_write hquote hr hwrite
  rejects r hroom := ⟨.numberTooLarge, if_neg hroom⟩

/-- Codecs that put the strings of a record between the same quotes **write the same text**. -/
theorem Codec.write_quoting_congr {quote' : List Char → Option (List Char)} {r : Record}
    (h : ∀ field ∈ r.present, itemText? quote field.2 = itemText? quote' field.2) :
    (Codec.quoting quote).write r = (Codec.quoting quote').write r := by
  simp only [quoting, writeRecord, fieldLines?_congr h]

end Quoting

/-- **What the standard codec writes** are the records whose numbers have room and whose strings
have no long run of quotes. -/
theorem Codec.exists_write_standard_iff {r : Record} :
    (∃ text, Codec.standard.write r = .ok text) ↔ (∀ field ∈ r.present, HasRoom field.2) ∧
      ∀ field ∈ r.present, ∀ s, field.2 = .string s → Quotation.RunsFit s.toList := by
  refine exists_write_quoting_iff.trans (and_congr_right fun _ => ?_)
  refine forall₂_congr fun field _ => ?_
  cases field.2 with
  | string s =>
    rw [itemText?, Quotation.isSome_write?_iff]
    exact ⟨fun h s' heq => Item.string.inj heq ▸ h, fun h => h s rfl⟩
  | integer n => exact iff_of_true rfl nofun

/-- The quotes of a string: those of the standard codec where it has any, else quotes on one line,
between which every string can be put. -/
def quoteAny (cs : List Char) : Option (List Char) :=
  Quotation.write? cs <|>
    some (Quotation.delimiter .basic ++ Quotation.body .basic cs ++ Quotation.delimiter .basic)

theorem isSoundQuoting_quoteAny : IsSoundQuoting quoteAny := by
  intro s text h
  unfold quoteAny at h
  cases hwrite : Quotation.write? s.toList with
  | some written =>
    rw [hwrite] at h
    obtain rfl := Option.some.inj h
    exact shows_string hwrite
  | none =>
    rw [hwrite] at h
    obtain rfl := Option.some.inj h
    refine shows_of_readString (.inl rfl) fun rest => ?_
    exact Quotation.readString_basic s.toList nofun

/-- The standard codec with quotes for every string **is faithful**. -/
theorem isFaithful_quoteAny : (Codec.quoting quoteAny).IsFaithful := by
  refine Codec.isFaithful_quoting isSoundQuoting_quoteAny fun cs => ?_
  unfold quoteAny
  cases Quotation.write? cs <;> rfl

/-- It writes **what the standard codec writes**. -/
theorem write_quoteAny_eq {r : Record} {text : String} (h : Codec.standard.write r = .ok text) :
    (Codec.quoting quoteAny).write r = .ok text := by
  obtain ⟨-, hruns⟩ := Codec.exists_write_standard_iff.mp ⟨text, h⟩
  rw [← h]
  refine Codec.write_quoting_congr fun field hfield => ?_
  cases hitem : field.2 with
  | string s =>
    obtain ⟨written, hwrite⟩ := Option.isSome_iff_exists.mp
      (Quotation.isSome_write?_iff.mpr (hruns field hfield s hitem))
    rw [itemText?, itemText?, quoteAny, hwrite]
    rfl
  | integer n => rfl

end Blitter.Toml
