import Blitter.Format.Name

/-!
# Tiled and compressed sources

A source that is not linear is fetched in whole tiles. `TileFetch.resolve` finds the tile size
that belongs to a format and an arrangement, and the smallest box of whole tiles around the
source rectangle; where brightness and color planes are fetched together, the box is an even
number of tiles wide.
-/

namespace Blitter

/-- How a read pipe fetches pixels from memory. -/
inductive FetchMode where
  | linear
  | gpuTile
  | gpuPacked
  | decoderTile
  | decoderPacked
  deriving DecidableEq, Repr

namespace FetchMode

/-- The register code. -/
def code : FetchMode → UInt32
  | linear => 0
  | gpuTile => 1
  | gpuPacked => 2
  | decoderTile => 3
  | decoderPacked => 4

/-- The pixels are compressed. -/
def isCompressed : FetchMode → Bool
  | gpuPacked | decoderPacked => true
  | linear | gpuTile | decoderTile => false

end FetchMode

/-- The groups of layouts that share their tile sizes. -/
inductive TileFamily where
  | rgb32
  | rgb16
  | quarterSemiPlanar
  deriving DecidableEq, Repr

/-- The group that a layout belongs to, if it can be tiled at all. -/
def TileFamily.ofLayout? (l : PixelLayout) : Option TileFamily :=
  if l.yuv then
    if l.planarity = .semiPlanar ∧ l.chroma = .quarter then some .quarterSemiPlanar else none
  else if l.bitsPerPixel = 32 then some .rgb32
  else if l.bitsPerPixel = 16 then some .rgb16
  else none

/-- The tiles of one group and arrangement. -/
structure TileShape where
  family : TileFamily
  arrangement : Arrangement
  width : UInt32
  height : UInt32
  mode : FetchMode
  /-- The code of the compressed format, for compressed tiles. -/
  compression : Option UInt8
  deriving DecidableEq, Repr

/-- The tiles that the engine can fetch. -/
def TileShape.table : List TileShape :=
  [ ⟨.rgb32, .gpuTile16x4, 16, 4, .gpuTile, none⟩,
    ⟨.rgb32, .gpuTile32x2, 32, 2, .gpuTile, none⟩,
    ⟨.rgb32, .gpuPacked16x4, 16, 4, .gpuPacked, some 0x0C⟩,
    ⟨.rgb16, .gpuTile16x4, 16, 4, .gpuTile, none⟩,
    ⟨.rgb16, .gpuPacked16x4, 16, 4, .gpuPacked, some 0x05⟩,
    ⟨.quarterSemiPlanar, .gpuPacked16x4, 16, 4, .gpuPacked, some 0x28⟩,
    ⟨.quarterSemiPlanar, .decoderTile16x16, 16, 16, .decoderTile, none⟩,
    ⟨.quarterSemiPlanar, .decoderPacked32x8, 32, 8, .decoderPacked, some 0x25⟩ ]

/-- The tiles of a group in an arrangement, if there are such. -/
def TileShape.find? (family : TileFamily) (arrangement : Arrangement) : Option TileShape :=
  table.find? fun t => t.family == family && t.arrangement == arrangement

/-- A box of pixels given by its edges, the far ones excluded. -/
structure Box where
  x1 : UInt32
  y1 : UInt32
  x2 : UInt32
  y2 : UInt32
  deriving DecidableEq, Repr

def Box.width (b : Box) : UInt32 := b.x2 - b.x1

def Box.height (b : Box) : UInt32 := b.y2 - b.y1

/-- The largest multiple of `a` that is at most `v`. -/
def alignDown (v a : UInt32) : UInt32 := v / a * a

/-- The smallest multiple of `a` that is at least `v`. -/
def alignUp (v a : UInt32) : UInt32 := if v % a = 0 then v / a * a else (v / a + 1) * a

/-- How a source rectangle is **fetched**. -/
structure TileFetch where
  /-- The size of a tile; a linear source has tiles of one pixel. -/
  tileWidth : UInt32
  tileHeight : UInt32
  /-- The pixels that are fetched. -/
  box : Box
  mode : FetchMode
  compression : Option UInt8
  deriving DecidableEq, Repr

namespace TileFetch

/-- The source is tiled. -/
def isTiled (t : TileFetch) : Bool := t.mode != .linear

/-- The source is compressed. -/
def isCompressed (t : TileFetch) : Bool := t.mode.isCompressed

/-- The register code of a tile's side: one less than its binary logarithm, and zero for a side
of one or two pixels. -/
def sideCode (side : UInt32) : UInt32 := UInt32.ofNat (side.toNat.log2 - 1)

/-- The tile control word. -/
def controlWord (t : TileFetch) : UInt32 :=
  Register.tileWidth.encode (sideCode t.tileWidth) |||
    Register.tileHeight.encode (sideCode t.tileHeight)

/-- The fetch of a linear source: the rectangle itself. -/
def linear (src : Rect) : TileFetch :=
  { tileWidth := 1, tileHeight := 1, box := ⟨src.x, src.y, src.right, src.bottom⟩
    mode := .linear, compression := none }

/-- The fetch of a tiled source: the smallest box of whole tiles around the rectangle, one tile
wider where the tiles have to come in pairs and their number is odd. -/
def tiled (shape : TileShape) (src : Rect) : TileFetch :=
  let x1 := alignDown src.x shape.width
  let y1 := alignDown src.y shape.height
  let x2 := alignUp src.right shape.width
  let y2 := alignUp src.bottom shape.height
  let paired := shape.family == .quarterSemiPlanar && (x2 - x1) / shape.width % 2 == 1
  { tileWidth := shape.width, tileHeight := shape.height
    box := ⟨x1, y1, if paired then x2 + shape.width else x2, y2⟩
    mode := shape.mode, compression := shape.compression }

/-- How the rectangle is fetched from a source of that format and arrangement. -/
def resolve (format : FormatCode) (arrangement : Arrangement) (src : Rect) : Outcome TileFetch :=
  if maxDimension < src.right ∨ maxDimension < src.bottom then
    rejectGeometry (.sourceBeyond src)
  else if arrangement = .linear then .ok (linear src)
  else do
    let layout ← format.readLayout
    match (TileFamily.ofLayout? layout).bind fun f => TileShape.find? f arrangement with
    | some shape => return tiled shape src
    | none => reject (.unsupportedArrangement format arrangement)

end TileFetch

end Blitter
