import Blitter.Register.Map

/-!
# Pixel layouts

What one pixel of a format is made of: the widths of its components, how far its color planes
are subsampled, and over how many memory planes it is spread. The lengths that address
arithmetic needs follow from these, in natural numbers. `columnAlign` is the smallest step of
columns that lands on a whole byte and a whole color sample in every plane.
-/

namespace Blitter

/-- How far the two color components are subsampled; formats without them count as `full`. -/
inductive Chroma where
  /-- One sample for two columns and two rows. -/
  | quarter
  /-- One sample for two columns. -/
  | half
  /-- One sample for every pixel. -/
  | full
  deriving DecidableEq, Repr

namespace Chroma

/-- Columns that share a color sample. -/
def columns : Chroma → Nat
  | quarter | half => 2
  | full => 1

/-- Rows that share a color sample. -/
def rows : Chroma → Nat
  | quarter => 2
  | half | full => 1

/-- The register code. -/
def code : Chroma → UInt32
  | quarter => 0
  | half => 1
  | full => 2

end Chroma

/-- How the components are spread over memory planes. -/
inductive Planarity where
  /-- All components side by side in one plane. -/
  | interleaved
  /-- One plane of brightness and one of color pairs. -/
  | semiPlanar
  /-- A plane for each component. -/
  | planar
  deriving DecidableEq, Repr

namespace Planarity

/-- The memory planes in use, in order. -/
def planes : Planarity → List (Fin 3)
  | interleaved => [0]
  | semiPlanar => [0, 1]
  | planar => [0, 1, 2]

/-- The register code. -/
def code : Planarity → UInt32
  | interleaved => 0
  | semiPlanar => 1
  | planar => 2

end Planarity

/-- The **layout of a pixel**. The components `y`, `u` and `v` are red, green and blue in a
format that is not YUV. -/
structure PixelLayout where
  /-- Bits of the alpha component. -/
  a : UInt8
  y : UInt8
  u : UInt8
  v : UInt8
  /-- The code of the order in which components follow each other. -/
  swap : UInt8
  yuv : Bool
  chroma : Chroma
  planarity : Planarity
  bigEndian : Bool
  /-- The alpha bits are padding. -/
  alphaIgnored : Bool
  deriving DecidableEq, Repr

namespace PixelLayout

/-- An interleaved RGB layout with the given component widths. -/
def rgb (a r g b swap : UInt8) : PixelLayout :=
  { a, y := r, u := g, v := b, swap, yuv := false, chroma := .full, planarity := .interleaved
    bigEndian := false, alphaIgnored := false }

/-- A YUV layout with components of eight bits. -/
def yuv8 (a : UInt8) (chroma : Chroma) (planarity : Planarity) (swap : UInt8) : PixelLayout :=
  { a, y := 8, u := 8, v := 8, swap, yuv := true, chroma, planarity
    bigEndian := false, alphaIgnored := false }

/-- The same layout with padding in place of alpha. -/
def padded (l : PixelLayout) : PixelLayout := { l with alphaIgnored := true }

/-- The same layout with its components in byte order. -/
def byteOrder (l : PixelLayout) : PixelLayout := { l with bigEndian := true }

/-- The memory planes in use, in order. -/
def planes (l : PixelLayout) : List (Fin 3) := l.planarity.planes

/-- Bits of a pixel, averaged over the frame. -/
def bitsPerPixel (l : PixelLayout) : Nat :=
  if l.yuv then
    l.a.toNat + l.y.toNat + (l.u.toNat + l.v.toNat) / (l.chroma.columns * l.chroma.rows)
  else l.a.toNat + l.y.toNat + l.u.toNat + l.v.toNat

/-- Bits that one column of pixels takes in a row of `plane`: moving on by `n` columns moves the
address of the plane by `n * planeBits plane / 8` bytes. -/
def planeBits (l : PixelLayout) (plane : Nat) : Nat :=
  match l.planarity, plane with
  | .interleaved, 0 =>
    if l.yuv then l.a.toNat + l.y.toNat + (l.u.toNat + l.v.toNat) / l.chroma.columns
    else l.bitsPerPixel
  | .semiPlanar, 0 | .planar, 0 => l.y.toNat
  | .semiPlanar, 1 => (l.u.toNat + l.v.toNat) / l.chroma.columns
  | .planar, 1 => l.u.toNat / l.chroma.columns
  | .planar, 2 => l.v.toNat / l.chroma.columns
  | _, _ => 0

/-- Rows of pixels that share a row of `plane`. -/
def planeRows (l : PixelLayout) (plane : Nat) : Nat :=
  if plane = 0 ∨ l.yuv = false then 1 else l.chroma.rows

/-- Columns of pixels that share a color sample. -/
def columnGroup (l : PixelLayout) : Nat := if l.yuv then l.chroma.columns else 1

/-- After `n` columns every plane is at the start of a byte. -/
def wholeBytes (l : PixelLayout) (n : Nat) : Bool :=
  l.planes.all fun p => n * l.planeBits p % 8 == 0

/-- The first of `n`, `2n`, `4n`, … that is a whole number of bytes in every plane, after at most
`doublings` doublings. -/
def firstWhole (l : PixelLayout) : (doublings : Nat) → (n : Nat) → Nat
  | 0, n => n
  | k + 1, n => if l.wholeBytes n then n else l.firstWhole k (2 * n)

/-- The smallest step of columns that starts every plane on a whole byte and a whole color
sample. Three doublings are enough: they make the step a multiple of eight. -/
def columnAlign (l : PixelLayout) : Nat := l.firstWhole 3 l.columnGroup

/-- The smallest step of rows that starts every plane on a whole row of color samples. -/
def rowAlign (l : PixelLayout) : Nat := if l.yuv then l.chroma.rows else 1

/-- Both color components are subsampled in both directions. -/
def isQuarterChroma (l : PixelLayout) : Bool := l.yuv && l.chroma == .quarter

/-- Two pixels share one group of interleaved components. -/
def isPackedHalfChroma (l : PixelLayout) : Bool :=
  l.yuv && l.planarity == .interleaved && l.chroma == .half

/-- The pixel layout word of the read pipes and the write pipe. -/
def toWord (l : PixelLayout) : UInt32 :=
  Register.layoutA.encode l.a.toUInt32 |||
  Register.layoutY.encode l.y.toUInt32 |||
  Register.layoutU.encode l.u.toUInt32 |||
  Register.layoutV.encode l.v.toUInt32 |||
  Register.layoutSwap.encode l.swap.toUInt32 |||
  Register.layoutChroma.encode l.chroma.code |||
  Register.layoutPlanarity.encode l.planarity.code |||
  (if l.yuv then Register.layoutYuv else 0) |||
  (if l.bigEndian then Register.layoutBigEndian else 0) |||
  (if l.alphaIgnored then Register.layoutAlphaIgnored else 0)

end PixelLayout

end Blitter
