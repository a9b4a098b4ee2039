import Blitter.Config
import Blitter.Data.Reader

/-!
# Reading configurations

Every field of a configuration may be left out.
-/

namespace Blitter

open Data

def WriteMode.read : Reader WriteMode := Reader.oneOf all name

def Config.read : Reader Config := fun d v => do
  let f ← v.fields? d 9
  let standard := Config.default
  let compatible ← f.withDefault d 0 "compatible" Reader.string standard.compatible
  let mode ← f.withDefault d 1 "write_mode" WriteMode.read standard.mode
  let timeout ← f.withDefault d 2 "timeout_ms" Reader.word64 standard.timeout
  let stripWidth ← f.withDefault d 3 "stroke_width" Reader.word32 standard.stripWidth
  let lineLimit ← f.withDefault d 4 "line_buffer_limit" Reader.word32 standard.lineLimit
  let deepPipe ←
    f.withDefault d 5 "deep_line_buffer_plane" (Reader.optional Reader.word64) standard.deepPipe
  let bufferCount ← f.withDefault d 6 "cmd_buffer_count" Reader.word64 standard.bufferCount
  let bufferWords ← f.withDefault d 7 "cmd_buffer_words" Reader.word64 standard.bufferWords
  let commandBase ← f.withDefault d 8 "cmd_dma_base" Reader.word64 standard.commandBase
  return { compatible, mode, timeout, stripWidth, lineLimit, deepPipe, bufferCount, bufferWords,
           commandBase }

end Blitter
