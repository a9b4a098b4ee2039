/-!
# Rectangles and rotations

Rectangles of pixels with 32-bit edges, whose far edges stop at the largest word, and the eight
ways in which a pipe turns an image. A turn is a quarter turn or none, followed by a flip or
none; `Rotation.swapsAxes` says whether width and height trade places.
-/

namespace Blitter

/-- The sum of two words, or the largest word if the sum is beyond it. -/
def clampedSum (a b : UInt32) : UInt32 :=
  if a.toNat + b.toNat < 0x100000000 then a + b else 0xFFFFFFFF

/-- A **rectangle of pixels**: its first column and row, its width and its height. -/
structure Rect where
  x : UInt32
  y : UInt32
  w : UInt32
  h : UInt32
  deriving DecidableEq, Repr

namespace Rect

/-- One past the last column. An edge beyond the largest word is taken to be that word, which is
still further right than the edge of any rectangle that ends before it. -/
def right (r : Rect) : UInt32 := clampedSum r.x r.w

/-- One past the last row, taken like `right`. -/
def bottom (r : Rect) : UInt32 := clampedSum r.y r.h

/-- The rectangle has no pixel. -/
def isEmpty (r : Rect) : Bool := r.w == 0 || r.h == 0

/-- The second rectangle lies inside the first. -/
def contains (r s : Rect) : Bool :=
  r.x ≤ s.x && r.y ≤ s.y && s.right ≤ r.right && s.bottom ≤ r.bottom

/-- The rectangle as messages show it. -/
def text (r : Rect) : String :=
  "Rect \x7b x: " ++ toString r.x ++ ", y: " ++ toString r.y ++ ", w: " ++ toString r.w ++
    ", h: " ++ toString r.h ++ " \x7d"

end Rect

/-- A **rotation** of an image. In the two combined ones the flip follows a clockwise quarter
turn. -/
inductive Rotation where
  | none
  | rot90
  | rot180
  | rot270
  | hFlip
  | vFlip
  | hFlip90
  | vFlip90
  deriving DecidableEq, Repr

namespace Rotation

/-- The register code. -/
def code : Rotation → UInt32
  | none => 0
  | rot90 => 1
  | rot180 => 2
  | rot270 => 3
  | hFlip => 4
  | vFlip => 5
  | hFlip90 => 6
  | vFlip90 => 7

/-- Width and height trade places. -/
def swapsAxes : Rotation → Bool
  | rot90 | rot270 | hFlip90 | vFlip90 => true
  | none | rot180 | hFlip | vFlip => false

/-- The width and height of the rotated image. -/
def size (r : Rotation) (w h : UInt32) : UInt32 × UInt32 :=
  if r.swapsAxes then (h, w) else (w, h)

/-- The rotation as messages show it. -/
def text : Rotation → String
  | none => "None"
  | rot90 => "Rot90"
  | rot180 => "Rot180"
  | rot270 => "Rot270"
  | hFlip => "HFlip"
  | vFlip => "VFlip"
  | hFlip90 => "HFlip90"
  | vFlip90 => "VFlip90"

/-- The name of the rotation in a request. -/
def name : Rotation → String
  | none => "none"
  | rot90 => "rot90"
  | rot180 => "rot180"
  | rot270 => "rot270"
  | hFlip => "h_flip"
  | vFlip => "v_flip"
  | hFlip90 => "h_flip90"
  | vFlip90 => "v_flip90"

/-- Every rotation. -/
def all : List Rotation := [none, rot90, rot180, rot270, hFlip, vFlip, hFlip90, vFlip90]

theorem mem_all (r : Rotation) : r ∈ all := by cases r <;> decide

end Rotation

end Blitter
