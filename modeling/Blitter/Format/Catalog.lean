import Blitter.Format.Layout
import Blitter.Text.Hex

/-!
# The format catalog

A pixel format is known by a code of four letters, held in one word. The catalog gives each code
that the engine knows its name and layout, and says whether the write pipe can produce it. A code
outside the catalog is a value like any other; what uses it finds it unsupported.
-/

namespace Blitter

/-- The **code of a pixel format**. -/
structure FormatCode where
  word : UInt32
  deriving DecidableEq, Repr

/-- The code spelled by four letters, the first in the lowest byte. -/
def FormatCode.ofLetters (a b c d : Char) : FormatCode :=
  ⟨UInt32.ofNat (a.toNat + 0x100 * b.toNat + 0x10000 * c.toNat + 0x1000000 * d.toNat)⟩

/-- What the catalog says of one format. -/
structure Format where
  code : FormatCode
  name : String
  layout : PixelLayout
  /-- The write pipe can produce it. -/
  writable : Bool
  deriving DecidableEq

/-- The formats the engine knows, in order. -/
def Format.catalog : List Format :=
  let code := FormatCode.ofLetters
  let rgb := PixelLayout.rgb
  let yuv := PixelLayout.yuv8
  [ ⟨code 'A' 'R' '2' '4', "ARGB8888", rgb 8 8 8 8 0, true⟩,
    ⟨code 'X' 'R' '2' '4', "XRGB8888", (rgb 8 8 8 8 0).padded, true⟩,
    ⟨code 'A' 'B' '2' '4', "ABGR8888", rgb 8 8 8 8 1, true⟩,
    ⟨code 'X' 'B' '2' '4', "XBGR8888", (rgb 8 8 8 8 1).padded, true⟩,
    ⟨code 'R' 'A' '2' '4', "RGBA8888", rgb 8 8 8 8 2, true⟩,
    ⟨code 'R' 'X' '2' '4', "RGBX8888", (rgb 8 8 8 8 2).padded, true⟩,
    ⟨code 'B' 'A' '2' '4', "BGRA8888", rgb 8 8 8 8 3, true⟩,
    ⟨code 'B' 'X' '2' '4', "BGRX8888", (rgb 8 8 8 8 3).padded, true⟩,
    ⟨code 'R' 'G' '2' '4', "RGB888", (rgb 0 8 8 8 0).byteOrder, true⟩,
    ⟨code 'B' 'G' '2' '4', "BGR888", (rgb 0 8 8 8 1).byteOrder, true⟩,
    ⟨code 'R' 'G' '1' '6', "RGB565", rgb 0 5 6 5 0, true⟩,
    ⟨code 'B' 'G' '1' '6', "BGR565", rgb 0 5 6 5 1, true⟩,
    ⟨code 'A' 'R' '1' '5', "ARGB1555", rgb 1 5 5 5 0, false⟩,
    ⟨code 'X' 'R' '1' '5', "XRGB1555", (rgb 1 5 5 5 0).padded, false⟩,
    ⟨code 'A' 'R' '1' '2', "ARGB4444", rgb 4 4 4 4 0, false⟩,
    ⟨code 'R' 'A' '1' '2', "RGBA4444", rgb 4 4 4 4 2, false⟩,
    ⟨code 'R' 'G' 'B' '8', "RGB332", rgb 0 3 3 2 0, false⟩,
    ⟨code 'N' 'V' '1' '2', "NV12", yuv 0 .quarter .semiPlanar 0, true⟩,
    ⟨code 'N' 'V' '2' '1', "NV21", yuv 0 .quarter .semiPlanar 1, true⟩,
    ⟨code 'N' 'V' '1' '6', "NV16", yuv 0 .half .semiPlanar 0, true⟩,
    ⟨code 'N' 'V' '6' '1', "NV61", yuv 0 .half .semiPlanar 1, true⟩,
    ⟨code 'Y' 'U' '1' '2', "YUV420", yuv 0 .quarter .planar 0, true⟩,
    ⟨code 'Y' 'V' '1' '2', "YVU420", yuv 0 .quarter .planar 1, true⟩,
    ⟨code 'Y' 'U' '1' '6', "YUV422", yuv 0 .half .planar 0, false⟩,
    ⟨code 'Y' 'U' '2' '4', "YUV444", yuv 0 .full .planar 0, false⟩,
    ⟨code 'A' 'Y' 'U' 'V', "AYUV", yuv 8 .full .interleaved 0, true⟩,
    ⟨code 'Y' 'U' 'Y' 'V', "YUYV", yuv 0 .half .interleaved 0, true⟩,
    ⟨code 'U' 'Y' 'V' 'Y', "UYVY", yuv 0 .half .interleaved 1, true⟩,
    ⟨code 'Y' 'V' 'Y' 'U', "YVYU", yuv 0 .half .interleaved 2, false⟩,
    ⟨code 'V' 'Y' 'U' 'Y', "VYUY", yuv 0 .half .interleaved 3, true⟩ ]

namespace FormatCode

/-- The catalog's entry for the code. -/
def format? (c : FormatCode) : Option Format := Format.catalog.find? fun f => f.code == c

/-- The catalog's name for the code. -/
def name? (c : FormatCode) : Option String := c.format?.map Format.name

/-- The **text of a code**: its name in the catalog, or else its eight hexadecimal digits. -/
def text (c : FormatCode) : String :=
  match c.name? with
  | some name => name
  | none => "0x" ++ Text.hex .upper 8 c.word.toNat

end FormatCode

/-- Which of the write pipe's two subsampling stages a format passes by: first two columns are
joined to one sample, then two rows. -/
inductive StageBypass where
  /-- Both stages work. -/
  | none
  /-- The joining of rows is passed by. -/
  | rows
  /-- Both stages are passed by. -/
  | both
  deriving DecidableEq, Repr

namespace StageBypass

/-- The register code. -/
def code : StageBypass → UInt32
  | none => 0
  | rows => 1
  | both => 3

/-- The stages a layout passes by on its way out. -/
def ofLayout (l : PixelLayout) : StageBypass :=
  if l.yuv then
    match l.chroma with
    | .quarter => none
    | .half => rows
    | .full => both
  else both

end StageBypass

end Blitter
