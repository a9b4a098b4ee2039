import Blitter.Format.Name

/-!
# Planes of a surface laid out back to back

`backToBack` gives the addresses and strides of the memory planes of a surface that lies in one
buffer: every plane starts where the one before it ends, and a row takes as many whole bytes as
its pixels need.
-/

namespace Blitter

/-- The address and stride of every memory plane of a surface. -/
structure Planes where
  address : Vector UInt64 3
  stride : Vector UInt32 3
  deriving DecidableEq

/-- The planes before any of them is placed. -/
def Planes.zero : Planes := ⟨Vector.replicate 3 0, Vector.replicate 3 0⟩

/-- The given planes of a surface placed from `next` upwards, in order. -/
def PixelLayout.place (l : PixelLayout) (width height : UInt32) :
    List (Fin 3) → (next : UInt64) → Planes → Outcome Planes
  | [], _, placed => .ok placed
  | p :: ps, next, placed => do
    let bits ← fit32 (width.toNat * l.planeBits p)
    let stride := UInt32.ofNat ((bits.toNat + 7) / 8)
    let rows := height.toNat / l.planeRows p
    let after ← fit64 (next.toNat + stride.toNat * rows)
    l.place width height ps after
      ⟨placed.address.set p next, placed.stride.set p stride⟩

/-- The planes of a surface of the given size in one buffer from `base`. -/
def PixelLayout.backToBack (l : PixelLayout) (base : UInt64) (width height : UInt32) :
    Outcome Planes :=
  l.place width height l.planes base .zero

/-- The layer with its source in one buffer; a layer of unknown format is left as it is. -/
def Layer.withBuffer (l : Layer) (base : UInt64) (width height : UInt32) : Outcome Layer :=
  match l.format.format? with
  | some f => do
    let planes ← f.layout.backToBack base width height
    return { l with address := planes.address, stride := planes.stride }
  | none => .ok l

/-- The output in one buffer of its size in memory; an output of unknown format is left as it
is. -/
def Output.withBuffer (o : Output) (base : UInt64) : Outcome Output :=
  match o.format.format? with
  | some f => do
    let planes ← f.layout.backToBack base o.memorySize.1 o.memorySize.2
    return { o with address := planes.address, stride := planes.stride }
  | none => .ok o

/-- The number of memory planes of the output; none for an unknown format. -/
def Output.planeCount (o : Output) : Nat :=
  match o.format.format? with
  | some f => f.layout.planes.length
  | none => 0

end Blitter
