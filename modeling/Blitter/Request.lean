import Blitter.Format.Catalog
import Blitter.Geometry

/-!
# Requests

What a caller asks of the engine: layers to be composed onto one output surface, a fill of a part
of a surface, or a raw copy of memory. Addresses are physical and final. A request is only a
description; whether the engine can do it is found out when it is compiled.
-/

namespace Blitter

/-- How the pixels of a source are **arranged in memory**. -/
inductive Arrangement where
  | linear
  /-- Tiles of the graphics unit, 16 by 4 pixels. -/
  | gpuTile16x4
  /-- Tiles of the graphics unit, 32 by 2 pixels. -/
  | gpuTile32x2
  /-- Compressed tiles of the graphics unit, 16 by 4 pixels. -/
  | gpuPacked16x4
  /-- Tiles of the video decoder, 16 by 16 pixels. -/
  | decoderTile16x16
  /-- Compressed tiles of the video decoder, 32 by 8 pixels. -/
  | decoderPacked32x8
  deriving DecidableEq, Repr

namespace Arrangement

/-- The name of the arrangement in a request. -/
def name : Arrangement → String
  | linear => "linear"
  | gpuTile16x4 => "gpu_tile_16x4"
  | gpuTile32x2 => "gpu_tile_32x2"
  | gpuPacked16x4 => "gpu_fbdc_16x4"
  | decoderTile16x16 => "vdec_tile_16x16"
  | decoderPacked32x8 => "vdec_fbdc_32x8"

/-- The arrangement as messages show it. -/
def text : Arrangement → String
  | linear => "Linear"
  | gpuTile16x4 => "GpuTile16x4"
  | gpuTile32x2 => "GpuTile32x2"
  | gpuPacked16x4 => "GpuFbdc16x4"
  | decoderTile16x16 => "VdecTile16x16"
  | decoderPacked32x8 => "VdecFbdc32x8"

/-- Every arrangement. -/
def all : List Arrangement :=
  [linear, gpuTile16x4, gpuTile32x2, gpuPacked16x4, decoderTile16x16, decoderPacked32x8]

theorem mem_all (a : Arrangement) : a ∈ all := by cases a <;> decide

end Arrangement

/-- How a layer covers what is below it. -/
inductive Blend where
  /-- By the layer's own alpha, the same for all its pixels. -/
  | none
  /-- By the alpha of each pixel, with which its color is multiplied already. -/
  | premultiplied
  /-- By the alpha of each pixel. -/
  | coverage
  deriving DecidableEq, Repr

namespace Blend

/-- The name of the mode in a request. -/
def name : Blend → String
  | none => "none"
  | premultiplied => "premultiplied"
  | coverage => "coverage"

/-- Every mode. -/
def all : List Blend := [none, premultiplied, coverage]

theorem mem_all (b : Blend) : b ∈ all := by cases b <;> decide

end Blend

/-- The standard that relates RGB and YUV colors. -/
inductive ColorSpace where
  | bt601
  | bt709
  deriving DecidableEq, Repr

namespace ColorSpace

/-- The name of the standard in a request. -/
def name : ColorSpace → String
  | bt601 => "bt601"
  | bt709 => "bt709"

/-- Both standards. -/
def all : List ColorSpace := [bt601, bt709]

theorem mem_all (c : ColorSpace) : c ∈ all := by cases c <;> decide

end ColorSpace

/-- A range of colors taken as transparent, both ends included. -/
structure ColorKey where
  min : UInt32
  max : UInt32
  deriving DecidableEq, Repr

/-- One **input layer**. -/
structure Layer where
  enabled : Bool := true
  format : FormatCode
  arrangement : Arrangement := .linear
  src : Rect
  dst : Rect
  /-- The place in the stack, counted from the bottom. -/
  depth : UInt8 := 0
  /-- The read pipe that fetches the layer. -/
  pipe : UInt8
  blend : Blend := .none
  alpha : UInt8 := 255
  address : Vector UInt64 3 := Vector.replicate 3 0
  stride : Vector UInt32 3 := Vector.replicate 3 0
  rotation : Rotation := .none
  colorSpace : ColorSpace := .bt601
  colorKey : Option ColorKey := none
  deriving DecidableEq

namespace Layer

/-- The size of the source after the pipe's rotation. -/
def turnedSize (l : Layer) : UInt32 × UInt32 := l.rotation.size l.src.w l.src.h

/-- The layer is stretched or shrunk across. -/
def scalesX (l : Layer) : Bool := l.turnedSize.1 != l.dst.w

/-- The layer is stretched or shrunk down. -/
def scalesY (l : Layer) : Bool := l.turnedSize.2 != l.dst.h

end Layer

/-- The **output surface**. Its size is that of the composed picture, before the write pipe's
rotation. -/
structure Output where
  format : FormatCode
  width : UInt32
  height : UInt32
  address : Vector UInt64 3 := Vector.replicate 3 0
  stride : Vector UInt32 3 := Vector.replicate 3 0
  rotation : Rotation := .none
  colorSpace : ColorSpace := .bt601
  deriving DecidableEq

/-- The width and height of the surface in memory. -/
def Output.memorySize (o : Output) : UInt32 × UInt32 := o.rotation.size o.width o.height

/-- A region of the output in one color. -/
structure Fill where
  color : UInt32
  rect : Rect
  deriving DecidableEq, Repr

/-- The operators that combine a pair of layers. -/
inductive MixMode where
  | clear
  | src
  | dst
  | srcOver
  | dstOver
  | srcIn
  | dstIn
  | srcOut
  | dstOut
  | srcAtop
  | dstAtop
  | xor
  deriving DecidableEq, Repr

namespace MixMode

/-- The register code. -/
def code : MixMode → UInt32
  | clear => 0
  | src => 1
  | dst => 2
  | srcOver => 3
  | dstOver => 4
  | srcIn => 5
  | dstIn => 6
  | srcOut => 7
  | dstOut => 8
  | srcAtop => 9
  | dstAtop => 10
  | xor => 11

/-- The name of the operator in a request. -/
def name : MixMode → String
  | clear => "clear"
  | src => "src"
  | dst => "dst"
  | srcOver => "src_over"
  | dstOver => "dst_over"
  | srcIn => "src_in"
  | dstIn => "dst_in"
  | srcOut => "src_out"
  | dstOut => "dst_out"
  | srcAtop => "src_atop"
  | dstAtop => "dst_atop"
  | xor => "xor"

/-- Every operator. -/
def all : List MixMode :=
  [clear, src, dst, srcOver, dstOver, srcIn, dstIn, srcOut, dstOut, srcAtop, dstAtop, xor]

theorem mem_all (m : MixMode) : m ∈ all := by cases m <;> decide

end MixMode

/-- A **Porter-Duff operator** between the layers of two pipes, in place of ordinary blending. -/
structure PorterDuff where
  srcPipe : UInt8
  dstPipe : UInt8
  mode : MixMode
  deriving DecidableEq, Repr

/-- A **composition request**. -/
structure Request where
  layers : List Layer := []
  output : Output
  /-- The color below every layer. -/
  background : Option UInt32 := none
  porterDuff : Option PorterDuff := none
  deriving DecidableEq

/-- The layers that take part, in order. -/
def Request.enabledLayers (r : Request) : List Layer := r.layers.filter Layer.enabled

/-- A raw copy of rows of bytes. -/
structure Copy where
  src : UInt64
  /-- The length of a row in bytes. -/
  width : UInt32
  height : UInt32
  srcStride : UInt32
  dst : UInt64
  dstStride : UInt32
  deriving DecidableEq, Repr

end Blitter
