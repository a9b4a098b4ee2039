import Blitter.Proofs.Config.Reader
import Blitter.Proofs.Toml.Codec

/-!
# Saved configurations

A codec that keeps the record of a configuration gives the configuration back when the file is
loaded, whatever the text looks like (`Config.isKept_of_keeps`): names of fields and of modes are
read as they are written, and a field that is left out stands for what it was. A faithful codec
keeps every configuration whose numbers have room, and saving any other fails with the files left
as they were (`Config.isKept_and_saveIn_eq_error`). The standard codec is not faithful for names
with long runs of quotes, and keeps all others (`Config.isKept_standard_iff`).
-/

namespace Blitter

open Data Toml

namespace Config

/-- Every number of the configuration has room in 64 bits **with a sign**. Those of 32 bits always
have. -/
structure NumbersFit (c : Config) : Prop where
  timeout : c.timeout.toNat < 0x8000000000000000
  deepPipe : ∀ p ∈ c.deepPipe, p.toNat < 0x8000000000000000
  bufferCount : c.bufferCount.toNat < 0x8000000000000000
  bufferWords : c.bufferWords.toNat < 0x8000000000000000
  commandBase : c.commandBase.toNat < 0x8000000000000000

/-! ### The record -/

theorem isKeyed_record (c : Config) : IsKeyed c.record := by
  have hnames : c.record.fields.map Prod.fst =
      ["compatible", "write_mode", "timeout_ms", "stroke_width", "line_buffer_limit",
        "deep_line_buffer_plane", "cmd_buffer_count", "cmd_buffer_words", "cmd_dma_base"] := rfl
  constructor
  · intro field hfield
    have hmem := List.mem_map_of_mem (f := Prod.fst) hfield
    rw [hnames] at hmem
    have hbare : ∀ name ∈ ["compatible", "write_mode", "timeout_ms", "stroke_width",
        "line_buffer_limit", "deep_line_buffer_plane", "cmd_buffer_count", "cmd_buffer_words",
        "cmd_dma_base"], Document.IsBareKey name := by decide
    exact hbare _ hmem
  · rw [hnames]
    decide

variable {c : Config}

/-- The format has room for what the record holds **if it has room for the numbers**. -/
theorem hasRoom_record_iff : (∀ field ∈ c.record.present, HasRoom field.2) ↔ c.NumbersFit := by
  have hstrip : c.stripWidth.toNat < 0x8000000000000000 :=
    Nat.lt_trans c.stripWidth.toNat_lt (by decide)
  have hline : c.lineLimit.toNat < 0x8000000000000000 :=
    Nat.lt_trans c.lineLimit.toNat_lt (by decide)
  simp only [Record.forall_mem_present_iff, record, List.forall_mem_cons, Option.mem_def,
    Option.some.injEq, forall_eq', Option.map_eq_some_iff, forall_exists_index, and_imp,
    forall_apply_eq_imp_iff₂, HasRoom, hstrip, hline, true_and]
  constructor
  · rintro ⟨htimeout, hdeep, hcount, hwords, hbase, -⟩
    exact ⟨htimeout, hdeep, hcount, hwords, hbase⟩
  · rintro ⟨htimeout, hdeep, hcount, hwords, hbase⟩
    exact ⟨htimeout, hdeep, hcount, hwords, hbase, fun _ h => absurd h List.not_mem_nil⟩

/-- A table with the values of the record **is read as the configuration**. -/
theorem read_table_of_lookup {entries : List (String × Value)}
    (h : ∀ name, entries.lookup name = c.record.value? name) :
    Config.read Toml.dialect (.table entries) = some c := by
  have hmode : WriteMode.read Toml.dialect (.string c.mode.name) = some c.mode := by
    cases c.mode <;> rfl
  have hfield {α : Type} {read : Reader α} {standard a : α} {v : Value} (place : Nat)
      {name : String} (hvalue : c.record.value? name = some v)
      (hread : read Toml.dialect v = some a) :
      Fields.withDefault (fun _ name => entries.lookup name) Toml.dialect place name read
        standard = some a := by
    rw [Fields.withDefault, h, hvalue]
    exact hread
  have hdeep : Fields.withDefault (fun _ name => entries.lookup name) Toml.dialect 5
      "deep_line_buffer_plane" (Reader.optional Reader.word64) default.deepPipe =
        some c.deepPipe := by
    have hvalue : c.record.value? "deep_line_buffer_plane" =
        (c.deepPipe.map fun p => Item.integer p.toNat).map Item.value := rfl
    cases hp : c.deepPipe with
    | none =>
      -- the field is left out, and nothing is configured where it is not found
      rw [Fields.withDefault, h, hvalue, hp]
      rfl
    | some p =>
      rw [hp] at hvalue
      have hword : Reader.word64 Toml.dialect (.integer p.toNat) = some p :=
        Reader.word64_eq_some_iff.mpr rfl
      have hread : Reader.optional Reader.word64 Toml.dialect (.integer p.toNat) =
          some (some p) := by
        show (Reader.word64 Toml.dialect (.integer p.toNat)).map some = some (some p)
        rw [hword]
        rfl
      exact hfield 5 hvalue hread
  rw [read_table_eq_some_iff]
  refine ⟨?_, ?_, ?_, ?_, ?_, hdeep, ?_, ?_, ?_⟩
  · exact hfield 0 rfl (Reader.string_eq_some_iff.mpr rfl)
  · exact hfield 1 rfl hmode
  · exact hfield 2 rfl (Reader.word64_eq_some_iff.mpr rfl)
  · exact hfield 3 rfl (Reader.word32_eq_some_iff.mpr rfl)
  · exact hfield 4 rfl (Reader.word32_eq_some_iff.mpr rfl)
  · exact hfield 6 rfl (Reader.word64_eq_some_iff.mpr rfl)
  · exact hfield 7 rfl (Reader.word64_eq_some_iff.mpr rfl)
  · exact hfield 8 rfl (Reader.word64_eq_some_iff.mpr rfl)

/-! ### Saving in a file -/

section Saving

variable {t : Codec} {files : String → Option String} {path : String}

/-- Saving the configuration in a file **succeeds, and loading the file gives it back**. -/
def IsKept (t : Codec) (c : Config) (files : String → Option String) (path : String) : Prop :=
  ∃ after, c.saveIn t files path = (after, .ok ()) ∧
    (after path).bind (Config.loadWith t) = some c

/-- What is read of a text that **keeps the record** is the configuration. -/
theorem isKept_of_keeps (h : t.Keeps c.record) : c.IsKept t files path := by
  obtain ⟨text, entries, hwrite, hparse, hlookup⟩ := h
  have hwritten : (fun p => if p = path then some text else files p) path = some text := if_pos rfl
  refine ⟨fun p => if p = path then some text else files p, ?_, ?_⟩
  · rw [saveIn, saveWith, hwrite]
  · rw [hwritten, Option.bind_some, loadWith, hparse]
    exact read_table_of_lookup hlookup

/-- A configuration that is kept **was written**. -/
theorem IsKept.exists_write (h : c.IsKept t files path) : ∃ text, t.write c.record = .ok text := by
  obtain ⟨after, hsave, -⟩ := h
  rw [saveIn, saveWith] at hsave
  cases hwrite : t.write c.record with
  | ok text => exact ⟨text, rfl⟩
  | error fault =>
    rw [hwrite] at hsave
    cases hsave

/-- The files stay **as they were** if the record cannot be written. -/
theorem saveIn_eq_error {fault : WriteFault} (h : t.write c.record = .error fault) :
    c.saveIn t files path = (files, .error fault) := by
  rw [saveIn, saveWith, h]

end Saving

/-- The strings of the record have no long run of quotes **if the name has none**. -/
theorem runsFit_record_iff :
    (∀ field ∈ c.record.present, ∀ s, field.2 = .string s → Quotation.RunsFit s.toList) ↔
      Quotation.RunsFit c.compatible.toList := by
  have hmode : Quotation.RunsFit c.mode.name.toList := by
    refine Quotation.runsFit_of_length_le ?_
    cases c.mode <;> decide
  simp only [Record.forall_mem_present_iff, record, List.forall_mem_cons, Option.mem_def,
    Option.some.injEq, forall_eq', Option.map_eq_some_iff, forall_exists_index, and_imp,
    Item.string.injEq, reduceCtorEq, false_imp_iff, implies_true, hmode, true_and]
  constructor
  · exact fun h => h.1
  · refine fun h => ⟨h, ?_, fun _ hnone => absurd hnone List.not_mem_nil⟩
    rintro _ p - rfl s hs
    cases hs

/-- **The standard codec keeps** the configurations whose numbers have room and whose name has no
run of quotes that is too long. -/
theorem isKept_standard_iff {files : String → Option String} {path : String} :
    c.IsKept .standard files path ↔ c.NumbersFit ∧ Quotation.RunsFit c.compatible.toList := by
  rw [← hasRoom_record_iff, ← runsFit_record_iff, ← Codec.exists_write_standard_iff]
  refine ⟨IsKept.exists_write, fun ⟨text, hwrite⟩ => isKept_of_keeps ?_⟩
  exact Codec.keeps_quoting_of_write (fun _ _ => Document.shows_string) (isKeyed_record c) hwrite

/-- **What becomes of a configuration that is saved.** With a faithful codec it is kept if all its
numbers have room, whatever its name; if one has not, saving fails and the files stay as they
were. -/
theorem isKept_and_saveIn_eq_error {t : Codec} (ht : t.IsFaithful) (c : Config)
    (files : String → Option String) (path : String) :
    (c.NumbersFit → c.IsKept t files path) ∧
      (¬ c.NumbersFit → ∃ fault, c.saveIn t files path = (files, .error fault)) := by
  constructor
  · intro hn
    exact isKept_of_keeps (ht.keeps _ (isKeyed_record c) (hasRoom_record_iff.mpr hn))
  · intro hn
    obtain ⟨fault, hfault⟩ := ht.rejects c.record (mt hasRoom_record_iff.mp hn)
    exact ⟨fault, saveIn_eq_error hfault⟩

/-- A configuration with a name that has to be escaped, and with a pipe of its own. -/
def oddlyNamed : Config :=
  { compatible := "g2d \\ \"\"\" '''\n\x01\u00e9", mode := .chained, deepPipe := some 1 }

/-- The same with a number that has no room. -/
def overcounted : Config := { oddlyNamed with bufferCount := 0x8000000000000000 }

/-- A codec that writes the configuration as the standard one does, and every other string as well,
**keeps it**. -/
theorem isKept_oddlyNamed :
    let t := Codec.quoting quoteAny
    t.IsFaithful ∧
      (∃ text, Codec.standard.write oddlyNamed.record = .ok text ∧
        t.write oddlyNamed.record = .ok text) ∧
      oddlyNamed.NumbersFit ∧ oddlyNamed.IsKept t (fun _ => none) "g2d.toml" ∧
      ¬ overcounted.NumbersFit ∧
      ∃ fault, overcounted.saveIn t (fun _ => none) "g2d.toml" = (fun _ => none, .error fault) := by
  have hn : oddlyNamed.NumbersFit :=
    { timeout := by decide
      deepPipe := by
        rintro p hp
        obtain rfl := Option.some.inj hp
        decide
      bufferCount := by decide
      bufferWords := by decide
      commandBase := by decide }
  have hruns : Quotation.RunsFit oddlyNamed.compatible.toList :=
    Quotation.runsFit_of_length_le (by decide)
  obtain ⟨text, hwrite⟩ : ∃ text, Codec.standard.write oddlyNamed.record = .ok text :=
    Codec.exists_write_standard_iff.mpr
      ⟨hasRoom_record_iff.mpr hn, runsFit_record_iff.mpr hruns⟩
  have hlarge : ¬ overcounted.NumbersFit := fun h => absurd h.bufferCount (by decide)
  refine ⟨isFaithful_quoteAny, ⟨text, hwrite, write_quoteAny_eq hwrite⟩, hn, ?_, hlarge, ?_⟩
  · exact (isKept_and_saveIn_eq_error isFaithful_quoteAny _ _ _).1 hn
  · exact (isKept_and_saveIn_eq_error isFaithful_quoteAny _ _ _).2 hlarge

end Config

end Blitter
