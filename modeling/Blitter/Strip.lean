import Blitter.Generation
import Blitter.Resolved

/-!
# Cutting a composition into strips

A pipe buffers whole lines of its source, and a rotating write pipe buffers lines of its output.
Where those buffers are too short the composition is cut into vertical strips of the composed
picture, each of them a pass of its own. `needsStrips` decides whether that has to be done,
`stripsOf` cuts the width, and `plan` clips every layer to every strip and moves the output's
addresses to where the strip lands in memory.
-/

namespace Blitter

/-- What decides about strips. -/
structure StripLimits where
  /-- The width of a strip. -/
  width : UInt32
  /-- The longest line of a source with quarter color resolution that a pipe buffers. -/
  line : UInt32
  /-- The pipe that buffers longer lines, if there is one. -/
  deepPipe : Option UInt64
  deriving DecidableEq, Repr

namespace StripLimits

/-- The limits of a generation, unless they are set otherwise. -/
def ofGeneration (g : Generation) : StripLimits :=
  { width := 256, line := 256, deepPipe := g.deepPipe }

/-- The pipe buffers longer lines. -/
def isDeep (limits : StripLimits) (pipe : UInt8) : Bool :=
  limits.deepPipe == some pipe.toUInt64

end StripLimits

/-- The source has lines too long for its pipe. -/
def Source.overflowsLine (s : Source) (limits : StripLimits) : Bool :=
  s.layout.isQuarterChroma && decide (limits.line < s.layer.src.w) &&
    !limits.isDeep s.layer.pipe

/-- Turns down scaling that the pipe, or the cutting into strips, cannot do. -/
def Source.checkScaling (limits : StripLimits) (strips : Bool) (s : Source) : Outcome Unit :=
  if strips && s.layer.scalesX then reject (.scaledStrip s.layer.pipe.toNat)
  else if s.layer.scalesX && s.layer.scalesY && !limits.isDeep s.layer.pipe then
    reject (.scaledBothWays s.layer.pipe.toNat)
  else .ok ()

/-- The composition **has to be cut into strips**: the output is rotated, or some source has
lines too long for its pipe. What cannot be cut is turned down. -/
def needsStrips (sources : List Source) (target : Target) (limits : StripLimits) : Outcome Bool :=
  let rotated := target.output.rotation != .none
  if rotated && target.layout.isPackedHalfChroma then
    reject (.rotatedPacked target.output.rotation)
  else do
    let strips := rotated || sources.any fun s => s.overflowsLine limits
    sources.forM (Source.checkScaling limits strips)
    return strips

/-- A **strip** of the composed picture. -/
structure Strip where
  index : Nat
  x : UInt32
  width : UInt32
  deriving DecidableEq, Repr

/-- One past the last column of the strip. -/
def Strip.right (s : Strip) : UInt32 := s.x + s.width

/-- The strips of a picture, from left to right: all as wide as asked for, except the last, which
has what is left. A width of zero is taken as one. -/
def stripsOf (width stripWidth : UInt32) : List Strip :=
  let step := Nat.max stripWidth.toNat 1
  (List.range ((width.toNat + step - 1) / step)).map fun i =>
    { index := i, x := UInt32.ofNat (i * step)
      width := UInt32.ofNat (Nat.min step (width.toNat - i * step)) }

/-! ### Where a strip lands in the output -/

/-- The columns of the picture run against the axis of memory that they land on. -/
def Rotation.runsBackward : Rotation → Bool
  | .hFlip | .rot180 | .rot270 | .vFlip90 => true
  | .none | .vFlip | .rot90 | .hFlip90 => false

/-- Where the strip starts on the axis of memory that its columns land on: a row if the rotation
swaps the axes, else a column. -/
def Output.stripStart (o : Output) (s : Strip) : UInt32 :=
  if o.rotation.runsBackward then o.width - s.right else s.x

/-- The distance in bytes from the start of a plane to the strip. -/
def Target.stripOffset (t : Target) (s : Strip) (plane : Fin 3) : Nat :=
  let start := (t.output.stripStart s).toNat
  if t.output.rotation.swapsAxes then
    start / t.layout.planeRows plane * (t.output.stride.get plane).toNat
  else start * t.layout.planeBits plane / 8

/-- Moves the addresses of the given planes on by an offset for each. -/
def moveAddresses (offset : Fin 3 → Nat) :
    List (Fin 3) → Vector UInt64 3 → Outcome (Vector UInt64 3)
  | [], address => .ok address
  | p :: ps, address => do
    let moved ← fit64 ((address.get p).toNat + offset p)
    moveAddresses offset ps (address.set p moved)

/-- The part of the output that a strip writes. A strip that starts inside a color sample is
turned down. -/
def Target.strip (t : Target) (s : Strip) : Outcome Output := do
  let start := t.output.stripStart s
  let onRows := t.output.rotation.swapsAxes
  let align := if onRows then t.layout.rowAlign else t.layout.columnAlign
  if start.toNat % align ≠ 0 then
    rejectGeometry (.stripSplitsSample s.index onRows start t.output.format)
  else
    let address ← moveAddresses (t.stripOffset s) t.layout.planes t.output.address
    return { t.output with width := s.width, address }

/-! ### What a strip sees of a layer -/

/-- Moves the source of a layer on by `shift` columns. A linear source moves its addresses by the
part of the shift that is whole bytes and whole color samples in every plane; the rest of it, and
the whole shift of a tiled source, moves the rectangle. -/
def Source.shiftColumns (s : Source) (clipped : Layer) (shift width : UInt32) : Outcome Layer := do
  let align := s.layout.columnAlign
  let moved := if s.layer.arrangement = .linear then shift.toNat - shift.toNat % align else 0
  let address ←
    moveAddresses (fun p => moved * s.layout.planeBits p / 8) s.layout.planes clipped.address
  let x ← fit32 (clipped.src.x.toNat + (shift.toNat - moved))
  return { clipped with address, src := { clipped.src with x, w := width } }

/-- Moves the source of a layer on by `shift` rows. -/
def Layer.shiftRows (clipped : Layer) (shift height : UInt32) : Outcome Layer := do
  let y ← fit32 (clipped.src.y.toNat + shift.toNat)
  return { clipped with src := { clipped.src with y, h := height } }

/-- The columns that a rectangle shares with a strip, by their first and one past their last. -/
def Strip.overlap? (s : Strip) (r : Rect) : Option (UInt32 × UInt32) :=
  let x0 := max r.x s.x
  let x1 := min r.right s.right
  if x0 < x1 then some (x0, x1) else none

/-- The part of a layer **inside a strip**, if there is any. Columns of the destination walk the
source forwards or backwards along its columns or, after a quarter turn, along its rows. -/
def Source.clip (source : Source) (s : Strip) : Outcome (Option Layer) :=
  let layer := source.layer
  match s.overlap? layer.dst with
  | none => .ok none
  | some (x0, x1) =>
    let width := x1 - x0
    let cutLeft := x0 - layer.dst.x
    let cutRight := layer.dst.right - x1
    let clipped := { layer with dst := { layer.dst with x := x0 - s.x, w := width } }
    some <$> match layer.rotation with
      | .none | .vFlip => source.shiftColumns clipped cutLeft width
      | .hFlip | .rot180 => source.shiftColumns clipped cutRight width
      | .rot90 | .hFlip90 => clipped.shiftRows cutRight width
      | .rot270 | .vFlip90 => clipped.shiftRows cutLeft width

/-- The layers and the output of one strip. -/
structure StripJob where
  strip : Strip
  layers : List Layer
  output : Output
  deriving DecidableEq

/-- The job of one strip: the layers that reach into it, clipped, and its part of the output. -/
def Strip.job (s : Strip) (sources : List Source) (target : Target) : Outcome StripJob := do
  let clipped ← sources.mapM fun source => source.clip s
  let output ← target.strip s
  return { strip := s, layers := clipped.filterMap id, output }

/-- The jobs of a composition **cut into strips**, from left to right. -/
def plan (sources : List Source) (target : Target) (limits : StripLimits) :
    Outcome (List StripJob) :=
  (stripsOf target.output.width limits.width).mapM fun s => s.job sources target

end Blitter
