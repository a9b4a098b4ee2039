import Blitter.Request

/-!
# Color conversion

The matrices by which read pipes turn YUV into RGB and the write pipe turns RGB into YUV. A
matrix is three rows of three coefficients and an offset; the coefficients are in 1024ths.
-/

namespace Blitter.ColorMatrix

/-- The matrix of a read pipe. -/
def yuvToRgb : ColorSpace → List Int
  | .bt601 =>
    [1192,    0, 1634, -223,
     1192, -401, -833,  136,
     1192, 2066,    0, -277]
  | .bt709 =>
    [1192,    0, 1836, -248,
     1192, -218, -546,   77,
     1192, 2163,    0, -289]

/-- The matrix of the write pipe. -/
def rgbToYuv : ColorSpace → List Int
  | .bt601 =>
    [ 263,  516,  100,   16,
     -152, -298,  450,  128,
      450, -377,  -73,  128]
  | .bt709 =>
    [ 187,  629,   63,   16,
     -103, -346,  450,  128,
      450, -409,  -41,  128]

/-- The register word of a coefficient: its two's complement in the lower half. -/
def word (coefficient : Int) : UInt32 := UInt32.ofNat (coefficient % 65536).toNat

/-- The writes that load a matrix, its `n`-th coefficient at offset `register n`. -/
def writes (register : Nat → Nat) (matrix : List Int) : List RegisterWrite :=
  matrix.zipIdx.map fun (c, n) => put (register n) (word c)

end Blitter.ColorMatrix
