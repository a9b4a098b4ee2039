import Blitter.Generation
import Blitter.Resolved

/-!
# Sharing the pools among channels

The read channels share pools for watermark, data and commands, and so do the write channels. A
request gives every channel a weight, and `allocate` splits each pool in proportion to the
weights. The busier the channels are together, the shorter the bursts in which they work.
-/

namespace Blitter

/-- The length of a channel's bursts. -/
inductive Burst where
  | short
  | medium
  | long
  deriving DecidableEq, Repr

namespace Burst

/-- The register code. -/
def code : Burst → UInt32
  | short => 1
  | medium => 2
  | long => 3

/-- The length as messages show it. -/
def text : Burst → String
  | short => "Short"
  | medium => "Medium"
  | long => "Long"

/-- The length that goes with a sum of weights. -/
def ofWeight (sum : Nat) : Burst :=
  if sum ≤ 1 then long else if sum ≤ 3 then medium else short

end Burst

/-- The pools with twice the room. -/
def Pools.doubled (p : Pools) : Outcome Pools := do
  let watermark ← fit32 (p.watermark.toNat * 2)
  let data ← fit32 (p.data.toNat * 2)
  let command ← fit32 (p.command.toNat * 2)
  return { watermark, data, command }

/-- What one channel gets. -/
structure Share where
  weight : UInt8
  watermark : UInt32
  data : UInt32
  command : UInt32
  deriving DecidableEq, Repr

/-- How the pools are **split among the channels** of one direction. -/
structure Allocation where
  shares : List Share
  /-- The sum of the weights. -/
  weight : Nat
  burst : Burst
  /-- The split is for a raw copy. -/
  forCopy : Bool
  deriving DecidableEq, Repr

namespace Allocation

/-- The sum of the weights. -/
def totalWeight (weights : List UInt8) : Nat :=
  (weights.map UInt8.toNat).foldr (· + ·) 0

/-- A channel's part of one pool: its weight times the part of a single unit of weight. -/
def part (pool : UInt32) (total : Nat) (weight : UInt8) : UInt32 :=
  UInt32.ofNat (weight.toNat * (pool.toNat / total))

/-- The share of a channel. -/
def share (pools : Pools) (total : Nat) (weight : UInt8) : Share :=
  { weight
    watermark := part pools.watermark total weight
    data := part pools.data total weight
    command := part pools.command total weight }

/-- The weights for a raw copy: the first channel works alone. -/
def copyWeights (channels : Nat) : List UInt8 := 1 :: List.replicate (channels - 1) 0

end Allocation

/-- **Splits the pools** by the given weights. For a raw copy the first channel gets everything,
whatever the weights. -/
def allocate (weights : List UInt8) (pools : Pools) (forCopy : Bool) : Outcome Allocation :=
  let weights := if forCopy then Allocation.copyWeights weights.length else weights
  let total := Allocation.totalWeight weights
  if total = 0 then reject .noActiveChannel
  else .ok
    { shares := weights.map (Allocation.share pools total)
      weight := total, burst := .ofWeight total, forCopy }

/-! ### Weights of a request -/

/-- Raises the weight of a channel to at least `weight`; a channel that does not exist is
passed over. -/
def raise (weights : List UInt8) (channel : Nat) (weight : UInt8) : List UInt8 :=
  weights.modify channel (max · weight)

/-- The channels that a layout uses, counted from its pipe's first one, with their weights. Two
color planes at the full rate share one channel of double weight. -/
def PixelLayout.channelWeights (l : PixelLayout) : List (Nat × UInt8) :=
  match l.planarity, l.chroma with
  | .interleaved, _ => [(0, 1)]
  | .semiPlanar, _ => [(0, 1), (1, 1)]
  | .planar, .full => [(0, 1), (1, 2)]
  | .planar, _ => [(0, 1), (1, 1), (2, 1)]

/-- Marks the channels of a source; a source on a pipe that does not exist uses none. -/
def Source.mark (pipes : List Pipe) (weights : List UInt8) (s : Source) : List UInt8 :=
  match pipes[s.layer.pipe.toNat]? with
  | some pipe =>
    s.layout.channelWeights.foldl (fun ws (c, w) => raise ws (pipe.firstChannel + c) w) weights
  | none => weights

/-- The weights of the read channels. The last channel is `reserved` for fetching the background
or the commands. -/
def Generation.readWeights (g : Generation) (sources : List Source) (reserved : Bool) :
    List UInt8 :=
  let idle := List.replicate g.readChannels 0
  let weights := sources.foldl (Source.mark g.pipes) idle
  if reserved then raise weights (g.readChannels - 1) 1 else weights

/-- The weights of the write channels: one for every memory plane of the output. -/
def Generation.writeWeights (g : Generation) (t : Target) : List UInt8 :=
  t.layout.planes.foldl (fun ws (p : Fin 3) => raise ws p.val 1) (List.replicate g.writeChannels 0)

/-! ### Register writes -/

namespace Allocation

/-- The burst word of a channel. -/
def burstWord (a : Allocation) (s : Share) : UInt32 :=
  Register.burstLength.encode a.burst.code |||
    Register.burstPriority.encode s.weight.toUInt32 |||
    (if 0 < s.weight then Register.burstEnable else 0)

/-- The writes of one channel, its burst word last. -/
def channelWrites (a : Allocation) (register : Nat → Nat) (s : Share) : List RegisterWrite :=
  [ put (register Register.channelWatermark) s.watermark,
    put (register Register.channelData) s.data,
    put (register Register.channelCommand) s.command,
    put (register Register.channelBurst) (a.burstWord s) ]

/-- The writes of every channel. -/
def writes (a : Allocation) (register : Nat → Nat → Nat) : List RegisterWrite :=
  a.shares.zipIdx.flatMap fun (s, n) => a.channelWrites (register n) s

/-- The writes for the read channels. -/
def readWrites (a : Allocation) : List RegisterWrite :=
  put Register.readControl (if a.forCopy then Register.readControlCopy else 0) ::
    a.writes Register.readChannel

/-- The writes for the write channels. -/
def writeWrites (a : Allocation) : List RegisterWrite :=
  put Register.writeControl 0 :: a.writes Register.writeChannel

end Allocation

end Blitter
