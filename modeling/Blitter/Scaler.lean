import Blitter.Failure

/-!
# Scaling

A read pipe scales along one axis by walking its source in steps of 16.16 fixed point, between
eight source pixels to one and one source pixel to sixteen. Between two source pixels it weighs
them by one of sixteen phases; the four taps of a phase add up to 64.
-/

namespace Blitter.Scaler

/-- Source pixels for a destination pixel, at most. -/
def maxShrink : Nat := 8

/-- Destination pixels for a source pixel, at most. -/
def maxStretch : Nat := 16

/-- The step along an axis, in 65536ths of a source pixel. -/
def step (src dst : UInt32) : UInt32 :=
  UInt32.ofNat (src.toNat * 65536 / Nat.max dst.toNat 1)

/-- Turns down a ratio that the scaler cannot produce. -/
def check (src dst : UInt32) : Outcome Unit :=
  if src = 0 ∨ dst = 0 then rejectGeometry (.emptyScale src dst)
  else do
    let most ← fit32 (dst.toNat * maxShrink)
    if most < src then rejectGeometry (.scaleRatio src dst)
    else
      let most ← fit32 (src.toNat * maxStretch)
      if most < dst then rejectGeometry (.scaleRatio src dst)

/-- The number of phases. -/
def phases : Nat := 16

/-- The word that holds four taps, the first in the lowest byte. -/
def packTaps (t0 t1 t2 t3 : Nat) : UInt32 :=
  UInt32.ofNat (t0 + 0x100 * t1 + 0x10000 * t2 + 0x1000000 * t3)

/-- The taps of a phase: the two middle pixels weighed in proportion. -/
def taps (phase : Nat) : UInt32 :=
  let far := phase * 64 / phases
  packTaps 0 (64 - far) far 0

/-- The taps of every phase, in order. -/
def tapTable : List UInt32 := (List.range phases).map taps

end Blitter.Scaler
