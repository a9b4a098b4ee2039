/-!
# Bit fields of a register

A register is a 32-bit word. A `Field` names a run of its bits; values are put into the run and
taken out of it without touching the other bits. Sizes and positions are packed two to a word,
and a 64-bit address takes two words.
-/

namespace Blitter

/-- A run of bits inside a register word: `width` bits from bit `shift` upwards. -/
structure Field where
  shift : UInt32
  width : UInt32
  /-- The run starts inside the word. -/
  shift_lt : shift < 32 := by decide
  deriving DecidableEq

namespace Field

/-- The field of that shape, if it starts inside the word. -/
def ofShape? (shift width : UInt32) : Option Field :=
  if h : shift < 32 then some { shift, width, shift_lt := h } else none

/-- The largest value the field holds: `width` ones, at most a whole word of them. -/
def max (f : Field) : UInt32 :=
  if 32 ≤ f.width then 0xFFFFFFFF else (1 <<< f.width) - 1

/-- The word that has `value` in the field and zeros elsewhere; bits that do not fit are
dropped. -/
def encode (f : Field) (value : UInt32) : UInt32 := (value &&& f.max) <<< f.shift

/-- The value in the field. -/
def decode (f : Field) (word : UInt32) : UInt32 := (word >>> f.shift) &&& f.max

/-- The word with `value` in the field and its other bits kept. -/
def insert (f : Field) (word value : UInt32) : UInt32 :=
  (word &&& ~~~(f.max <<< f.shift)) ||| f.encode value

end Field

/-- One less than `n`, but not below zero. -/
def lessOne (n : UInt32) : UInt32 := if n = 0 then 0 else n - 1

/-- A size in one word: height less one in the upper half, width less one in the lower. -/
def packSize (width height : UInt32) : UInt32 :=
  ((lessOne height &&& 0xFFFF) <<< 16) ||| (lessOne width &&& 0xFFFF)

/-- A position in one word: row in the upper half, column in the lower. -/
def packPosition (x y : UInt32) : UInt32 := ((y &&& 0xFFFF) <<< 16) ||| (x &&& 0xFFFF)

/-- The lower word of an address. -/
def lowWord (address : UInt64) : UInt32 := address.toUInt32

/-- The upper word of an address. -/
def highWord (address : UInt64) : UInt32 := (address >>> 32).toUInt32

/-- The address with those two words. -/
def joinWords (high low : UInt32) : UInt64 := (high.toUInt64 <<< 32) ||| low.toUInt64

end Blitter
