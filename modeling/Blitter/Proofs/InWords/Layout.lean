import Blitter.Proofs.Addresses
import Blitter.Proofs.Format.Alignment
import Blitter.Proofs.InWords

/-!
# Lengths of a pixel layout, in words

The components of a pixel are at most 255 bits wide, in the catalog or not, so that the lengths of
a layout stay far below the largest word; and the search for the smallest whole step of columns
ends after three doublings. What is left to fail is the sum of an address and an offset.
-/

namespace Blitter

namespace PixelLayout

variable (l : PixelLayout)

theorem bitsPerPixel_le : l.bitsPerPixel ≤ 4 * 255 := by
  have := l.a.toNat_lt
  have := l.y.toNat_lt
  have := l.u.toNat_lt
  have := l.v.toNat_lt
  unfold bitsPerPixel
  split
  · have := Nat.div_le_self (l.u.toNat + l.v.toNat) (l.chroma.columns * l.chroma.rows)
    omega
  · omega

theorem planeBits_le (p : Nat) : l.planeBits p ≤ 4 * 255 := by
  have := l.a.toNat_lt
  have := l.y.toNat_lt
  have := l.u.toNat_lt
  have := l.v.toNat_lt
  have := l.bitsPerPixel_le
  have := Nat.div_le_self (l.u.toNat + l.v.toNat) l.chroma.columns
  have := Nat.div_le_self l.u.toNat l.chroma.columns
  have := Nat.div_le_self l.v.toNat l.chroma.columns
  unfold planeBits
  split <;> try split
  all_goals omega

theorem columnGroup_le : l.columnGroup ≤ 2 := by
  unfold columnGroup Chroma.columns
  split
  · split <;> decide
  · decide

theorem firstWhole_le (k : Nat) {n : Nat} : l.firstWhole k n ≤ 2 ^ k * n := by
  induction k generalizing n with
  | zero => exact Nat.le_of_eq (Nat.one_mul n).symm
  | succ k ih =>
    rw [firstWhole]
    split
    · exact Nat.le_mul_of_pos_left n (Nat.two_pow_pos _)
    · have := ih (n := 2 * n)
      rwa [← Nat.mul_assoc, ← Nat.pow_succ] at this

theorem columnAlign_le : l.columnAlign ≤ 16 :=
  (l.firstWhole_le 3).trans (Nat.mul_le_mul_left _ l.columnGroup_le)

theorem rowAlign_pos : 0 < l.rowAlign := by
  unfold rowAlign Chroma.rows
  split
  · split <;> decide
  · decide

theorem rowAlign_le : l.rowAlign ≤ 2 := by
  unfold rowAlign Chroma.rows
  split
  · split <;> decide
  · decide

theorem planeRows_le (p : Nat) : l.planeRows p ≤ 2 := by
  unfold planeRows Chroma.rows
  split
  · decide
  · split <;> decide

/-- The numbers of the memory planes in use. -/
def planeNumbers : List Nat := List.range l.planes.length

theorem planeNumbers_eq : l.planeNumbers = l.planes.map Fin.val := by
  unfold planeNumbers planes Planarity.planes
  split <;> rfl

end PixelLayout

namespace InWords

/-! ### Bits and alignments -/

/-- `PixelLayout.bitsPerPixel` in words. -/
def bitsPerPixel (l : PixelLayout) : InWords UInt32 := do
  let ay ← add l.a.toUInt32 l.y.toUInt32
  if l.yuv then
    let uv ← add l.u.toUInt32 l.v.toUInt32
    let group ← mul (.ofNat l.chroma.columns) (.ofNat l.chroma.rows)
    let color ← div uv group
    add ay color
  else
    let ayu ← add ay l.u.toUInt32
    add ayu l.v.toUInt32

/-- `PixelLayout.planeBits` in words. -/
def planeBits (l : PixelLayout) (plane : Nat) : InWords UInt32 :=
  match l.planarity, plane with
  | .interleaved, 0 =>
    if l.yuv then do
      let ay ← add l.a.toUInt32 l.y.toUInt32
      let uv ← add l.u.toUInt32 l.v.toUInt32
      let color ← div uv (.ofNat l.chroma.columns)
      add ay color
    else bitsPerPixel l
  | .semiPlanar, 0 | .planar, 0 => .ok l.y.toUInt32
  | .semiPlanar, 1 => do
    let uv ← add l.u.toUInt32 l.v.toUInt32
    div uv (.ofNat l.chroma.columns)
  | .planar, 1 => div l.u.toUInt32 (.ofNat l.chroma.columns)
  | .planar, 2 => div l.v.toUInt32 (.ofNat l.chroma.columns)
  | _, _ => .ok 0

/-- After `n` columns some plane is inside a byte. -/
def splitsByte (l : PixelLayout) (n : UInt32) : InWords Bool :=
  l.planeNumbers.anyM fun p => do
    let bits ← planeBits l p
    let total ← mul n bits
    let rest ← rem total 8
    return rest != 0

/-- The search of `PixelLayout.firstWhole` in words, with at most so many steps tried. A search that
does not end has no result. -/
def firstWhole (l : PixelLayout) : (steps : Nat) → (n : UInt32) → InWords UInt32
  | 0, _ => .error .undefined
  | k + 1, n => do
    if ← splitsByte l n then
      let doubled ← mul n 2
      firstWhole l k doubled
    else return n

/-- `PixelLayout.columnAlign` in words. -/
def columnAlign (l : PixelLayout) : InWords UInt32 := firstWhole l 4 (.ofNat l.columnGroup)

/-- The bytes that so many columns of a plane take. -/
def columnBytes (l : PixelLayout) (columns : UInt32) (plane : Nat) : InWords UInt64 := do
  let bits ← planeBits l plane
  let total ← mulLong columns.toUInt64 bits.toUInt64
  divLong total 8

/-- The bytes that so many lines of a plane take. -/
def lineBytes (stride : Vector UInt32 3) (lines : UInt64) (plane : Nat) : InWords UInt64 := do
  let stride ← get stride plane
  mulLong lines stride.toUInt64

section Layout

variable (l : PixelLayout)

theorem columns_bounds (c : Chroma) : 0 < c.columns ∧ c.columns ≤ 2 := by cases c <;> decide

theorem rows_bounds (c : Chroma) : 0 < c.rows ∧ c.rows ≤ 2 := by cases c <;> decide

theorem bitsPerPixel_eq : bitsPerPixel l = .ok (.ofNat l.bitsPerPixel) := by
  have := l.a.toNat_lt
  have := l.y.toNat_lt
  have := l.u.toNat_lt
  have := l.v.toNat_lt
  obtain ⟨hc, hc2⟩ := columns_bounds l.chroma
  obtain ⟨hr, hr2⟩ := rows_bounds l.chroma
  have hpos : 0 < l.chroma.columns * l.chroma.rows := Nat.mul_pos hc hr
  have hle : l.chroma.columns * l.chroma.rows ≤ 2 * 2 := Nat.mul_le_mul hc2 hr2
  have hdiv := Nat.div_le_self (l.u.toNat + l.v.toNat) (l.chroma.columns * l.chroma.rows)
  unfold bitsPerPixel PixelLayout.bitsPerPixel
  simp (disch := omega) only [← UInt32.ofNat_uInt8ToNat, add_ofNat, mul_ofNat, div_ofNat, ok_bind]
  split <;> rfl

theorem planeBits_eq (p : Nat) : planeBits l p = .ok (.ofNat (l.planeBits p)) := by
  have := l.a.toNat_lt
  have := l.y.toNat_lt
  have := l.u.toNat_lt
  have := l.v.toNat_lt
  obtain ⟨hc, hc2⟩ := columns_bounds l.chroma
  have hdiv := Nat.div_le_self (l.u.toNat + l.v.toNat) l.chroma.columns
  unfold planeBits PixelLayout.planeBits
  cases l.planarity <;> rcases p with _ | _ | _ | p
  all_goals simp (disch := omega) only [← UInt32.ofNat_uInt8ToNat, add_ofNat, div_ofNat, ok_bind,
    bitsPerPixel_eq]
  · split <;> rfl
  all_goals rfl

/-- Any number of columns takes a number of bytes that **fits a long word**. -/
theorem columnBytes_eq (columns : UInt32) (p : Nat) :
    columnBytes l columns p = .ok (.ofNat (columns.toNat * l.planeBits p / 8)) ∧
      columns.toNat * l.planeBits p / 8 < 2 ^ 64 := by
  have hbits := l.planeBits_le p
  have hcolumns := columns.toNat_lt
  have hmul := Nat.mul_lt_mul_of_lt_of_le hcolumns hbits (by decide)
  have hdiv := Nat.div_le_self (columns.toNat * l.planeBits p) 8
  have hlong : (UInt32.ofNat (l.planeBits p)).toUInt64 = .ofNat (l.planeBits p) :=
    UInt32.toUInt64_ofNat' (by show _ < 4294967296; omega)
  constructor
  · unfold columnBytes
    rw [planeBits_eq, ok_bind, hlong, ← UInt64.ofNat_uInt32ToNat,
      mulLong_ofNat hcolumns (by omega), ok_bind]
    exact divLong_ofNat (n := 8) (by omega) (by decide) (by decide)
  · omega

/-- Whether some plane is split is found out in words, for any step that is not too large. -/
theorem splitsByte_eq {n : Nat} (h : n ≤ 16) :
    splitsByte l (.ofNat n) = .ok !l.wholeBytes n := by
  have hplane (p : Nat) : (do
      let bits ← planeBits l p
      let total ← mul (.ofNat n) bits
      let rest ← rem total 8
      return rest != 0) = (.ok !(n * l.planeBits p % 8 == 0) : InWords Bool) := by
    have hbits := l.planeBits_le p
    have hmul := Nat.mul_le_mul h hbits
    have hrest : rem (UInt32.ofNat (n * l.planeBits p)) 8 =
        .ok (UInt32.ofNat (n * l.planeBits p % 8)) :=
      rem_ofNat (n := 8) (by omega) (by decide) (by decide)
    simp (disch := omega) only [planeBits_eq, mul_ofNat, hrest, ok_bind]
    have hzero : (UInt32.ofNat (n * l.planeBits p % 8) == 0) = (n * l.planeBits p % 8 == 0) := by
      rw [Bool.eq_iff_iff, beq_iff_eq, beq_iff_eq, ← UInt32.toNat_inj, UInt32.toNat_ofNat_of_lt'
        (Nat.lt_of_lt_of_le (Nat.mod_lt _ (by decide)) (by decide : 8 ≤ UInt32.size))]
      rfl
    exact congrArg (fun b => Except.ok (not b)) hzero
  unfold splitsByte PixelLayout.wholeBytes
  rw [l.planeNumbers_eq]
  generalize l.planes = planes
  induction planes with
  | nil => rfl
  | cons p planes ih =>
    rw [List.map_cons, List.anyM, hplane, ok_bind, List.all_cons]
    cases n * l.planeBits p % 8 == 0 with
    | true => exact ih
    | false => rfl

/-- A search that is at whole bytes after `k` doublings at the latest **ends**. -/
theorem firstWhole_eq (k : Nat) {n : Nat} (hdvd : 8 ∣ 2 ^ k * n) (hle : 2 ^ k * n ≤ 16) :
    firstWhole l (k + 1) (.ofNat n) = .ok (.ofNat (l.firstWhole k n)) := by
  have hn : n ≤ 16 := (Nat.le_mul_of_pos_left n (Nat.two_pow_pos k)).trans hle
  induction k generalizing n with
  | zero =>
    have hwhole : l.wholeBytes n = true := l.wholeBytes_firstWhole 0 hdvd
    rw [firstWhole, splitsByte_eq l hn, hwhole]
    rfl
  | succ k ih =>
    rw [firstWhole, splitsByte_eq l hn, PixelLayout.firstWhole]
    cases l.wholeBytes n with
    | true => rfl
    | false =>
      -- one doubling fewer is left, of a step twice as long
      have hdouble : mul (UInt32.ofNat n) 2 = .ok (.ofNat (2 * n)) := by
        rw [Nat.mul_comm]
        exact mul_ofNat (n := 2) (by omega) (by decide) (by omega)
      have hpow : 2 ^ k * (2 * n) = 2 ^ (k + 1) * n := by rw [← Nat.mul_assoc, ← Nat.pow_succ]
      show (mul (UInt32.ofNat n) 2 >>= firstWhole l (k + 1)) = _
      rw [hdouble, ok_bind]
      have hle' : 2 ^ k * (2 * n) ≤ 16 := hpow ▸ hle
      exact ih (hpow ▸ hdvd) hle' ((Nat.le_mul_of_pos_left _ (Nat.two_pow_pos k)).trans hle')

theorem columnAlign_eq : columnAlign l = .ok (.ofNat l.columnAlign) :=
  firstWhole_eq l 3 (Nat.dvd_mul_right 8 _) (Nat.mul_le_mul_left 8 l.columnGroup_le)

/-- A number of lines that is a word takes a number of bytes that **fits a long one**. -/
theorem lineBytes_eq {n : Nat} (hn : n < 2 ^ 32) (stride : Vector UInt32 3) (p : Fin 3) :
    lineBytes stride (.ofNat n) p = .ok (.ofNat (n * (stride.get p).toNat)) ∧
      n * (stride.get p).toNat < 2 ^ 64 := by
  have hstride := (stride.get p).toNat_lt
  have hmul := Nat.mul_lt_mul'' hn hstride
  constructor
  · unfold lineBytes
    rw [get_eq p.isLt, ok_bind, ← UInt64.ofNat_uInt32ToNat]
    exact mulLong_ofNat hn hstride
  · omega

end Layout

/-! ### Addresses -/

/-- The address moved on by an offset. -/
def advance (address offset : UInt64) : InWords UInt64 := of (fit64 (address.toNat + offset.toNat))

/-- The addresses of the numbered planes moved on, each in its own way. -/
def moveAddresses (move : Nat → UInt64 → InWords UInt64) :
    List Nat → Vector UInt64 3 → InWords (Vector UInt64 3)
  | [], address => .ok address
  | p :: ps, address => do
    let old ← get address p
    let moved ← move p old
    let address ← set address p moved
    moveAddresses move ps address

/-- Moving addresses in words **fails where a sum leaves its word** and nowhere else. -/
theorem moveAddresses_eq {move : Nat → UInt64 → InWords UInt64} {offset : Fin 3 → Nat}
    {planes : List (Fin 3)}
    (h : ∀ p ∈ planes, ∀ old, move p old = of (fit64 (old.toNat + offset p)))
    (address : Vector UInt64 3) :
    moveAddresses move (planes.map Fin.val) address =
      of (Blitter.moveAddresses offset planes address) := by
  induction planes generalizing address with
  | nil => rfl
  | cons p planes ih =>
    obtain ⟨hp, hplanes⟩ := List.forall_mem_cons.mp h
    rw [List.map_cons, moveAddresses, get_eq p.isLt, ok_bind]
    refine bind_eq_of (hp _) fun moved _ => ?_
    rw [set_eq p.isLt, ok_bind]
    exact ih hplanes _

/-- An offset that is worked out in words is added to each address. -/
theorem bind_advance {offset : InWords UInt64} {n : Nat} (hn : n < 2 ^ 64)
    (h : offset = .ok (.ofNat n)) (old : UInt64) :
    (offset >>= advance old) = of (fit64 (old.toNat + n)) := by
  rw [h, ok_bind, advance, UInt64.toNat_ofNat_of_lt' hn]

end InWords

end Blitter
