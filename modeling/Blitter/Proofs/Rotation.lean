import Blitter.Geometry
import Mathlib.Tactic.Common

/-!
# Rotations as maps of pixels

`Rotation.place` says where a rotation puts a pixel. It is composed of two flips and a clockwise
quarter turn; where a rotation is both a flip and a turn, `FlipOrder` says which comes first.
Whatever the rotation, each coordinate of the result is one of the pixel's coordinates, counted
from the near edge of the image or from the far one (`place_eq`). Counting from the far edge is
`mirror`, and its two laws of addition are what the cutting of images into strips rests on.
-/

namespace Blitter

/-- Which comes **first** in a rotation that is both a quarter turn and a flip. -/
inductive FlipOrder where
  | turnFirst
  | flipFirst
  deriving DecidableEq, Repr

/-- Position `k` of `n`, counted from the far end if `back` holds. -/
def mirror (back : Bool) (n k : Nat) : Nat := if back then n - 1 - k else k

section Mirror

variable {b : Bool} {l n r k : Nat}

theorem mirror_lt (h : k < n) : mirror b n k < n := by
  unfold mirror
  split <;> omega

theorem mirror_mirror (h : k < n) : mirror b n (mirror b n k) = k := by
  unfold mirror
  split <;> omega

/-- Counting within a middle part of `n`, with `l` before and `r` behind it. -/
theorem mirror_add_left (h : k < n) :
    mirror b (l + n + r) (l + k) = (if b then r else l) + mirror b n k := by
  unfold mirror
  split <;> omega

/-- The same, for a part that is found by counting from the end that `b` tells. -/
theorem mirror_add_end (h : k < n) :
    mirror b (l + n + r) ((if b then r else l) + k) = l + mirror b n k := by
  unfold mirror
  split <;> omega

/-- What a middle part shows at position `c`, it shows there as a part of the whole. -/
theorem lt_and_mirror_eq_iff {c i : Nat} (hl : l ≤ c) (hc : c < l + n) :
    i < l + n + r ∧ mirror b (l + n + r) i = c ↔
      ∃ k, k < n ∧ i = (if b then r else l) + k ∧ l + mirror b n k = c := by
  constructor
  · rintro ⟨hi, rfl⟩
    refine ⟨i - (if b then r else l), ?_⟩
    unfold mirror at hl hc ⊢
    cases b with
    | true =>
      rw [if_pos rfl] at hl hc
      simp only [if_true]
      omega
    | false =>
      rw [if_neg Bool.false_ne_true] at hl hc
      simp only [Bool.false_eq_true, if_false]
      omega
  · rintro ⟨k, hk, rfl, rfl⟩
    refine ⟨?_, mirror_add_end hk⟩
    split <;> omega

end Mirror

namespace Rotation

/-- Where a pixel of an image of width `w` is after a flip of columns. -/
def flipColumns (w : Nat) (p : Nat × Nat) : Nat × Nat := (w - 1 - p.1, p.2)

/-- Where a pixel of an image of height `h` is after a flip of rows. -/
def flipRows (h : Nat) (p : Nat × Nat) : Nat × Nat := (p.1, h - 1 - p.2)

/-- Where a pixel of an image of height `h` is after a clockwise quarter turn. The turned image
is `h` pixels wide. -/
def turnRight (h : Nat) (p : Nat × Nat) : Nat × Nat := (h - 1 - p.2, p.1)

/-- Where the rotation **puts a pixel** of an image of width `w` and height `h`. -/
def place (order : FlipOrder) (r : Rotation) (w h : Nat) (p : Nat × Nat) : Nat × Nat :=
  match r, order with
  | none, _ => p
  | hFlip, _ => flipColumns w p
  | vFlip, _ => flipRows h p
  | rot180, _ => (w - 1 - p.1, h - 1 - p.2)
  | rot90, _ => turnRight h p
  | rot270, _ => (p.2, w - 1 - p.1)
  | hFlip90, .turnFirst => flipColumns h (turnRight h p)
  | hFlip90, .flipFirst => turnRight h (flipColumns w p)
  | vFlip90, .turnFirst => flipRows w (turnRight h p)
  | vFlip90, .flipFirst => turnRight h (flipRows h p)

/-- The rotation is a quarter turn together with a flip. -/
def isCombined : Rotation → Bool
  | hFlip90 | vFlip90 => true
  | none | rot90 | rot180 | rot270 | hFlip | vFlip => false

/-- Columns of the rotated image count from the far edge of the image. -/
def mirrorsColumns (order : FlipOrder) : Rotation → Bool
  | none | vFlip | rot270 => false
  | hFlip | rot180 | rot90 => true
  | hFlip90 => order == .flipFirst
  | vFlip90 => order == .turnFirst

/-- Rows of the rotated image count from the far edge of the image. -/
def mirrorsRows (order : FlipOrder) : Rotation → Bool
  | none | hFlip | rot90 => false
  | vFlip | rot180 | rot270 => true
  | hFlip90 => order == .flipFirst
  | vFlip90 => order == .turnFirst

variable {order : FlipOrder} {r : Rotation} {w h i j : Nat}

/-- **Each coordinate of the rotated pixel is one of the pixel's coordinates**, counted from
either edge. -/
theorem place_eq (hj : j < h) :
    r.place order w h (i, j) =
      if r.swapsAxes then (mirror (r.mirrorsColumns order) h j, mirror (r.mirrorsRows order) w i)
      else (mirror (r.mirrorsColumns order) w i, mirror (r.mirrorsRows order) h j) := by
  cases r <;> cases order <;>
    simp [place, flipColumns, flipRows, turnRight, swapsAxes, mirrorsColumns, mirrorsRows,
      mirror] <;>
    omega

theorem place_of_swapsAxes (hr : r.swapsAxes = true) (hj : j < h) :
    r.place order w h (i, j) =
      (mirror (r.mirrorsColumns order) h j, mirror (r.mirrorsRows order) w i) := by
  rw [place_eq hj, if_pos hr]

theorem place_of_not_swapsAxes (hr : r.swapsAxes = false) (hj : j < h) :
    r.place order w h (i, j) =
      (mirror (r.mirrorsColumns order) w i, mirror (r.mirrorsRows order) h j) := by
  rw [place_eq hj, if_neg (Bool.eq_false_iff.mp hr)]

/-- The order matters to the combined rotations only. -/
theorem mirrorsColumns_of_not_isCombined (hr : r.isCombined = false) (order' : FlipOrder) :
    r.mirrorsColumns order = r.mirrorsColumns order' := by
  cases r <;> first | rfl | cases hr

end Rotation

end Blitter
