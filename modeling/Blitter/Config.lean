import Blitter.Emitter

/-!
# Configuration of a device

Which engine a device is bound to, and how it is driven.
-/

namespace Blitter

/-- The **configuration of a device**. -/
structure Config where
  /-- Names the generation of the engine. -/
  compatible : String := "g2d,normal-v2"
  mode : WriteMode := .direct
  /-- How long a start may take, in milliseconds. -/
  timeout : UInt64 := 1000
  /-- The width of a strip. -/
  stripWidth : UInt32 := 256
  /-- The longest line of a source with quarter color resolution that a pipe buffers. -/
  lineLimit : UInt32 := 256
  /-- The pipe that buffers longer lines, if not the generation's own. -/
  deepPipe : Option UInt64 := none
  bufferCount : UInt64 := 16
  /-- The size of a command buffer in words. -/
  bufferWords : UInt64 := 4096
  /-- The address of the first command buffer. -/
  commandBase : UInt64 := 0x80000000
  deriving DecidableEq

namespace Config

/-- The configuration when nothing is configured. -/
def default : Config := {}

/-- The limits for strips on an engine of the given generation. -/
def stripLimits (c : Config) (g : Generation) : StripLimits :=
  { width := c.stripWidth, line := c.lineLimit, deepPipe := c.deepPipe <|> g.deepPipe }

/-- The way programs are brought to an engine of the given generation: as configured, as far as
the engine can. -/
def modeFor (c : Config) (g : Generation) : WriteMode :=
  if g.replaysCommands then c.mode else .direct

/-- The configuration as messages show it. -/
def text (c : Config) : String :=
  let deep := match c.deepPipe with
    | some p => "Some(" ++ toString p ++ ")"
    | none => "None"
  "Config \x7b compatible: " ++ Text.quoted c.compatible ++ ", write_mode: " ++ c.mode.text ++
    ", timeout_ms: " ++ toString c.timeout ++ ", stroke_width: " ++ toString c.stripWidth ++
    ", line_buffer_limit: " ++ toString c.lineLimit ++ ", deep_line_buffer_plane: " ++ deep ++
    ", cmd_buffer_count: " ++ toString c.bufferCount ++
    ", cmd_buffer_words: " ++ toString c.bufferWords ++
    ", cmd_dma_base: " ++ toString c.commandBase ++ " \x7d"

end Config

end Blitter
