import Blitter.Config.Reader
import Blitter.Toml.Codec

/-!
# Configuration files

A configuration is kept in a TOML document, as the record of its fields. What becomes of a file is
said for any codec of the format; `Config.save` and `Config.load` are the standard one's.
-/

namespace Blitter

open Data Toml

/-- How records and alternatives are read from a TOML document. -/
def Toml.dialect : Dialect :=
  { surplusItems := true
    besideName := fun
      | .table [] | .array [] => true
      | _ => false }

namespace Config

/-- The configuration in the text of a file; nothing if the text holds none. -/
def loadWith (t : Codec) (text : String) : Option Config :=
  (t.parse text).bind (Config.read Toml.dialect)

def load (text : String) : Option Config := loadWith .standard text

/-- The **record of the configuration**. A pipe that is not configured is a field without a
value. -/
def record (c : Config) : Record where
  fields :=
    [ ("compatible", some (.string c.compatible)),
      ("write_mode", some (.string c.mode.name)),
      ("timeout_ms", some (.integer c.timeout.toNat)),
      ("stroke_width", some (.integer c.stripWidth.toNat)),
      ("line_buffer_limit", some (.integer c.lineLimit.toNat)),
      ("deep_line_buffer_plane", c.deepPipe.map fun p => .integer p.toNat),
      ("cmd_buffer_count", some (.integer c.bufferCount.toNat)),
      ("cmd_buffer_words", some (.integer c.bufferWords.toNat)),
      ("cmd_dma_base", some (.integer c.commandBase.toNat)) ]

/-- The text of a file that **holds the configuration**. -/
def saveWith (t : Codec) (c : Config) : Except WriteFault String := t.write c.record

def save (c : Config) : Except WriteFault String := c.saveWith .standard

/-- **Saves the configuration** in a file, in place of what it held. The files are as they were if
the configuration cannot be saved. -/
def saveIn (t : Codec) (c : Config) (files : String → Option String) (path : String) :
    (String → Option String) × Except WriteFault Unit :=
  match c.saveWith t with
  | .ok text => (fun p => if p = path then some text else files p, .ok ())
  | .error fault => (files, .error fault)

end Config

end Blitter
