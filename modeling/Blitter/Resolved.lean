import Blitter.Tile

/-!
# Layers and outputs with their formats looked up

A `Source` is a layer together with its pixel layout and the way it is fetched; a `Target` is an
output together with its layout and the stages of the write pipe it passes by.
-/

namespace Blitter

/-- A layer **ready to be fetched**. -/
structure Source where
  layer : Layer
  layout : PixelLayout
  fetch : TileFetch
  deriving DecidableEq

/-- Looks up the format of a layer and finds out how it is fetched. -/
def Source.ofLayer (layer : Layer) : Outcome Source := do
  let layout ← layer.format.readLayout
  let fetch ← TileFetch.resolve layer.format layer.arrangement layer.src
  return { layer, layout, fetch }

/-- An output **ready to be written**. -/
structure Target where
  output : Output
  layout : PixelLayout
  bypass : StageBypass
  deriving DecidableEq

/-- Checks the size of an output and looks up its format. -/
def Target.ofOutput (output : Output) : Outcome Target :=
  if output.width = 0 ∨ output.height = 0 ∨ maxDimension < output.width ∨
      maxDimension < output.height then
    reject (.outputSize output.width output.height)
  else do
    let (layout, bypass) ← output.format.writeLayout
    return { output, layout, bypass }

end Blitter
