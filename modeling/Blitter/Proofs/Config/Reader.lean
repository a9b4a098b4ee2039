import Blitter.Config.File

/-!
# What is read as a configuration

Every field of a configuration may be left out, and keys that no field has are passed over. So
nothing but a value of the wrong kind can stand in the way: a table is read as a configuration
**exactly when the fields it does have hold values of their kinds** (`Config.isSome_read_iff`).
-/

namespace Blitter

namespace Data

/-! ### Readers -/

namespace Reader

variable {d : Dialect} {v : Value}

theorem string_eq_some_iff {s : String} : string d v = some s ↔ v = .string s := by
  cases v <;> simp [string]

/-- A number is read if it is **not negative and below the bound**. -/
theorem natBelow_eq_some_iff {bound n : Nat} :
    natBelow bound d v = some n ↔ n < bound ∧ v = .integer n := by
  cases v with
  | integer m =>
    simp only [natBelow, Option.ite_none_right_eq_some, Option.some.injEq, Value.integer.injEq]
    omega
  | _ => simp [natBelow]

theorem word32_eq_some_iff {w : UInt32} : word32 d v = some w ↔ v = .integer w.toNat := by
  simp only [word32, Option.map_eq_some_iff, natBelow_eq_some_iff]
  constructor
  · rintro ⟨n, ⟨hn, rfl⟩, rfl⟩
    rw [UInt32.toNat_ofNat_of_lt' hn]
  · rintro rfl
    exact ⟨w.toNat, ⟨w.toNat_lt, rfl⟩, UInt32.ofNat_toNat⟩

theorem word64_eq_some_iff {w : UInt64} : word64 d v = some w ↔ v = .integer w.toNat := by
  simp only [word64, Option.map_eq_some_iff, natBelow_eq_some_iff]
  constructor
  · rintro ⟨n, ⟨hn, rfl⟩, rfl⟩
    rw [UInt64.toNat_ofNat_of_lt' hn]
  · rintro rfl
    exact ⟨w.toNat, ⟨w.toNat_lt, rfl⟩, UInt64.ofNat_toNat⟩

theorem isSome_string_iff : (string d v).isSome ↔ ∃ s, v = .string s := by
  simp only [Option.isSome_iff_exists, string_eq_some_iff]

theorem isSome_word32_iff : (word32 d v).isSome ↔ ∃ w : UInt32, v = .integer w.toNat := by
  simp only [Option.isSome_iff_exists, word32_eq_some_iff]

theorem isSome_word64_iff : (word64 d v).isSome ↔ ∃ w : UInt64, v = .integer w.toNat := by
  simp only [Option.isSome_iff_exists, word64_eq_some_iff]

theorem isSome_optional_iff {α : Type} {read : Reader α} :
    (optional read d v).isSome ↔ v = .null ∨ (read d v).isSome := by
  cases v <;> simp [optional]

end Reader

variable {α : Type} {f : Fields} {d : Dialect} {place : Nat} {name : String} {read : Reader α}
  {default : α}

/-- A field with a default is refused **only for the value it has**. -/
theorem Fields.isSome_withDefault_iff :
    (f.withDefault d place name read default).isSome ↔ ∀ v ∈ f place name, (read d v).isSome := by
  unfold withDefault
  cases f place name <;> simp

end Data

open Data

/-- A mode is read **from its name**, which may stand alone or be the one key of a table. -/
theorem WriteMode.isSome_read_iff {d : Dialect} {v : Value} :
    (WriteMode.read d v).isSome ↔
      ∃ m : WriteMode, v = .string m.name ∨
        ∃ beside, d.besideName beside = true ∧ v = .table [(m.name, beside)] := by
  have hfind : ∀ s : String,
      (all.find? fun m => name m == s).isSome ↔ ∃ m : WriteMode, s = m.name := by
    intro s
    rw [List.find?_isSome]
    constructor
    · rintro ⟨m, -, hm⟩
      exact ⟨m, (beq_iff_eq.mp hm).symm⟩
    · rintro ⟨m, rfl⟩
      exact ⟨m, m.mem_all, beq_self_eq_true _⟩
  unfold WriteMode.read Reader.oneOf
  split
  case h_1 s => simp [hfind]
  case h_2 key beside =>
    split
    case isTrue hbeside => simp [hfind, hbeside]
    case isFalse hbeside => simp [hbeside]
  case h_3 hstring htable =>
    simp only [Option.isSome_none, Bool.false_eq_true, false_iff, not_exists, not_or]
    exact fun m => ⟨hstring _, fun beside h => htable _ _ h.2⟩

namespace Config

/-! ### The fields of a configuration -/

/-- The fields that a table has of a configuration **hold values of their kinds**. -/
structure Suits (d : Dialect) (entries : List (String × Value)) : Prop where
  compatible : ∀ v ∈ entries.lookup "compatible", ∃ s, v = .string s
  mode : ∀ v ∈ entries.lookup "write_mode", ∃ m : WriteMode, v = .string m.name ∨
    ∃ beside, d.besideName beside = true ∧ v = .table [(m.name, beside)]
  timeout : ∀ v ∈ entries.lookup "timeout_ms", ∃ n : UInt64, v = .integer n.toNat
  stripWidth : ∀ v ∈ entries.lookup "stroke_width", ∃ n : UInt32, v = .integer n.toNat
  lineLimit : ∀ v ∈ entries.lookup "line_buffer_limit", ∃ n : UInt32, v = .integer n.toNat
  deepPipe : ∀ v ∈ entries.lookup "deep_line_buffer_plane",
    v = .null ∨ ∃ n : UInt64, v = .integer n.toNat
  bufferCount : ∀ v ∈ entries.lookup "cmd_buffer_count", ∃ n : UInt64, v = .integer n.toNat
  bufferWords : ∀ v ∈ entries.lookup "cmd_buffer_words", ∃ n : UInt64, v = .integer n.toNat
  commandBase : ∀ v ∈ entries.lookup "cmd_dma_base", ∃ n : UInt64, v = .integer n.toNat

variable {d : Dialect} {entries : List (String × Value)}

/-- A table is read as a configuration **field by field**. -/
theorem read_table_eq_some_iff {c : Config} :
    Config.read d (.table entries) = some c ↔
      let f : Fields := fun _ name => entries.lookup name
      f.withDefault d 0 "compatible" Reader.string default.compatible = some c.compatible ∧
      f.withDefault d 1 "write_mode" WriteMode.read default.mode = some c.mode ∧
      f.withDefault d 2 "timeout_ms" Reader.word64 default.timeout = some c.timeout ∧
      f.withDefault d 3 "stroke_width" Reader.word32 default.stripWidth = some c.stripWidth ∧
      f.withDefault d 4 "line_buffer_limit" Reader.word32 default.lineLimit = some c.lineLimit ∧
      f.withDefault d 5 "deep_line_buffer_plane" (Reader.optional Reader.word64)
        default.deepPipe = some c.deepPipe ∧
      f.withDefault d 6 "cmd_buffer_count" Reader.word64 default.bufferCount =
        some c.bufferCount ∧
      f.withDefault d 7 "cmd_buffer_words" Reader.word64 default.bufferWords =
        some c.bufferWords ∧
      f.withDefault d 8 "cmd_dma_base" Reader.word64 default.commandBase = some c.commandBase := by
  simp only [Config.read, Value.fields?, Option.bind_eq_bind, Option.bind_some,
    Option.bind_eq_some_iff]
  constructor
  · rintro ⟨_, h0, _, h1, _, h2, _, h3, _, h4, _, h5, _, h6, _, h7, _, h8, h⟩
    obtain rfl := Option.some.inj h
    exact ⟨h0, h1, h2, h3, h4, h5, h6, h7, h8⟩
  · rintro ⟨h0, h1, h2, h3, h4, h5, h6, h7, h8⟩
    exact ⟨_, h0, _, h1, _, h2, _, h3, _, h4, _, h5, _, h6, _, h7, _, h8, rfl⟩

/-- **Only a field of the wrong kind** keeps a table from being a configuration. -/
theorem isSome_read_iff : (Config.read d (.table entries)).isSome ↔ Suits d entries := by
  simp only [Option.isSome_iff_exists, read_table_eq_some_iff]
  constructor
  · rintro ⟨c, h0, h1, h2, h3, h4, h5, h6, h7, h8⟩
    have hread {α : Type} {place : Nat} {key : String} {read : Reader α} {standard a : α}
        (h : Fields.withDefault (fun _ name => entries.lookup name) d place key read standard =
          some a) {v : Value} (hv : v ∈ entries.lookup key) : (read d v).isSome :=
      Fields.isSome_withDefault_iff.mp (Option.isSome_of_eq_some h) v hv
    exact
      { compatible := fun v hv => Reader.isSome_string_iff.mp (hread h0 hv)
        mode := fun v hv => WriteMode.isSome_read_iff.mp (hread h1 hv)
        timeout := fun v hv => Reader.isSome_word64_iff.mp (hread h2 hv)
        stripWidth := fun v hv => Reader.isSome_word32_iff.mp (hread h3 hv)
        lineLimit := fun v hv => Reader.isSome_word32_iff.mp (hread h4 hv)
        deepPipe := fun v hv =>
          (Reader.isSome_optional_iff.mp (hread h5 hv)).imp id Reader.isSome_word64_iff.mp
        bufferCount := fun v hv => Reader.isSome_word64_iff.mp (hread h6 hv)
        bufferWords := fun v hv => Reader.isSome_word64_iff.mp (hread h7 hv)
        commandBase := fun v hv => Reader.isSome_word64_iff.mp (hread h8 hv) }
  · intro h
    have hfield {α : Type} (place : Nat) {key : String} {read : Reader α} (standard : α)
        (hv : ∀ v ∈ entries.lookup key, (read d v).isSome) :
        ∃ a, Fields.withDefault (fun _ name => entries.lookup name) d place key read standard =
          some a :=
      Option.isSome_iff_exists.mp (Fields.isSome_withDefault_iff.mpr hv)
    obtain ⟨compatible, h0⟩ := hfield 0 default.compatible fun v hv =>
      Reader.isSome_string_iff.mpr (h.compatible v hv)
    obtain ⟨mode, h1⟩ := hfield 1 default.mode fun v hv =>
      WriteMode.isSome_read_iff.mpr (h.mode v hv)
    obtain ⟨timeout, h2⟩ := hfield 2 default.timeout fun v hv =>
      Reader.isSome_word64_iff.mpr (h.timeout v hv)
    obtain ⟨stripWidth, h3⟩ := hfield 3 default.stripWidth fun v hv =>
      Reader.isSome_word32_iff.mpr (h.stripWidth v hv)
    obtain ⟨lineLimit, h4⟩ := hfield 4 default.lineLimit fun v hv =>
      Reader.isSome_word32_iff.mpr (h.lineLimit v hv)
    obtain ⟨deepPipe, h5⟩ := hfield 5 default.deepPipe fun v hv =>
      Reader.isSome_optional_iff.mpr ((h.deepPipe v hv).imp id Reader.isSome_word64_iff.mpr)
    obtain ⟨bufferCount, h6⟩ := hfield 6 default.bufferCount fun v hv =>
      Reader.isSome_word64_iff.mpr (h.bufferCount v hv)
    obtain ⟨bufferWords, h7⟩ := hfield 7 default.bufferWords fun v hv =>
      Reader.isSome_word64_iff.mpr (h.bufferWords v hv)
    obtain ⟨commandBase, h8⟩ := hfield 8 default.commandBase fun v hv =>
      Reader.isSome_word64_iff.mpr (h.commandBase v hv)
    exact ⟨{ compatible, mode, timeout, stripWidth, lineLimit, deepPipe, bufferCount, bufferWords,
             commandBase }, h0, h1, h2, h3, h4, h5, h6, h7, h8⟩

end Config

end Blitter
