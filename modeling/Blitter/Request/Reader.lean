import Blitter.Data.Reader
import Blitter.Format.Name

/-!
# Reading requests

Readers for requests and their parts. A `Job` is a request together with the operation that it
asks for.
-/

namespace Blitter

open Data

/-- A format by its name. -/
def FormatCode.read : Reader FormatCode := fun d v => (Reader.string d v).bind FormatCode.ofName?

def Rect.read : Reader Rect := fun d v => do
  let f ← v.fields? d 4
  let x ← f.required d 0 "x" Reader.word32
  let y ← f.required d 1 "y" Reader.word32
  let w ← f.required d 2 "w" Reader.word32
  let h ← f.required d 3 "h" Reader.word32
  return { x, y, w, h }

def Rotation.read : Reader Rotation := Reader.oneOf all name

def Arrangement.read : Reader Arrangement := Reader.oneOf all name

def Blend.read : Reader Blend := Reader.oneOf all name

def ColorSpace.read : Reader ColorSpace := Reader.oneOf all name

def MixMode.read : Reader MixMode := Reader.oneOf all name

def ColorKey.read : Reader ColorKey := fun d v => do
  let f ← v.fields? d 2
  let min ← f.required d 0 "min" Reader.word32
  let max ← f.required d 1 "max" Reader.word32
  return { min, max }

def Layer.read : Reader Layer := fun d v => do
  let f ← v.fields? d 14
  let enabled ← f.withDefault d 0 "enabled" Reader.boolean true
  let format ← f.required d 1 "format" FormatCode.read
  let arrangement ← f.withDefault d 2 "modifier" Arrangement.read .linear
  let src ← f.required d 3 "src" Rect.read
  let dst ← f.required d 4 "dst" Rect.read
  let depth ← f.withDefault d 5 "zpos" Reader.word8 0
  let pipe ← f.required d 6 "plane" Reader.word8
  let blend ← f.withDefault d 7 "blend" Blend.read .none
  let alpha ← f.withDefault d 8 "alpha" Reader.word8 255
  let address ← f.withDefault d 9 "addr" (Reader.triple Reader.word64) (Vector.replicate 3 0)
  let stride ← f.withDefault d 10 "stride" (Reader.triple Reader.word32) (Vector.replicate 3 0)
  let rotation ← f.withDefault d 11 "rotation" Rotation.read .none
  let colorSpace ← f.withDefault d 12 "color_space" ColorSpace.read .bt601
  let colorKey ← f.withDefault d 13 "color_key" (Reader.optional ColorKey.read) none
  return { enabled, format, arrangement, src, dst, depth, pipe, blend, alpha, address, stride,
           rotation, colorSpace, colorKey }

def Output.read : Reader Output := fun d v => do
  let f ← v.fields? d 7
  let format ← f.required d 0 "format" FormatCode.read
  let width ← f.required d 1 "width" Reader.word32
  let height ← f.required d 2 "height" Reader.word32
  let address ← f.withDefault d 3 "addr" (Reader.triple Reader.word64) (Vector.replicate 3 0)
  let stride ← f.withDefault d 4 "stride" (Reader.triple Reader.word32) (Vector.replicate 3 0)
  let rotation ← f.withDefault d 5 "rotation" Rotation.read .none
  let colorSpace ← f.withDefault d 6 "color_space" ColorSpace.read .bt601
  return { format, width, height, address, stride, rotation, colorSpace }

def Fill.read : Reader Fill := fun d v => do
  let f ← v.fields? d 2
  let color ← f.required d 0 "color" Reader.word32
  let rect ← f.required d 1 "rect" Rect.read
  return { color, rect }

def PorterDuff.read : Reader PorterDuff := fun d v => do
  let f ← v.fields? d 3
  let srcPipe ← f.required d 0 "src_plane" Reader.word8
  let dstPipe ← f.required d 1 "dst_plane" Reader.word8
  let mode ← f.required d 2 "mode" MixMode.read
  return { srcPipe, dstPipe, mode }

def Request.read : Reader Request := fun d v => do
  let f ← v.fields? d 4
  let layers ← f.withDefault d 0 "layers" (Reader.list Layer.read) []
  let output ← f.required d 1 "output" Output.read
  let background ← f.withDefault d 2 "background" (Reader.optional Reader.word32) none
  let porterDuff ← f.withDefault d 3 "porter_duff" (Reader.optional PorterDuff.read) none
  return { layers, output, background, porterDuff }

def Copy.read : Reader Copy := fun d v => do
  let f ← v.fields? d 6
  let src ← f.required d 0 "src_addr" Reader.word64
  let width ← f.required d 1 "width" Reader.word32
  let height ← f.required d 2 "height" Reader.word32
  let srcStride ← f.required d 3 "src_stride" Reader.word32
  let dst ← f.required d 4 "dst_addr" Reader.word64
  let dstStride ← f.required d 5 "dst_stride" Reader.word32
  return { src, width, height, srcStride, dst, dstStride }

/-- A request with its **operation**. -/
inductive Job where
  | compose (request : Request)
  | fill (fill : Fill) (output : Output)
  | copy (copy : Copy)
  deriving DecidableEq

/-- A job is a table that names its operation. -/
def Job.read : Reader Job
  | d, .table entries => do
    let op ← (entries.lookup "op").bind (Reader.string d)
    if op = "compose" then return .compose (← Request.read d (.table entries))
    else if op = "fill" then
      let fill ← (entries.lookup "background").bind (Fill.read d)
      let output ← (entries.lookup "output").bind (Output.read d)
      return .fill fill output
    else if op = "fastcopy" then return .copy (← Copy.read d (.table entries))
    else none
  | _, _ => none

end Blitter
