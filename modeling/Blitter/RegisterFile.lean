import Blitter.Register.Map

/-!
# The register file

The words of a register window. An offset names the word that it lies in, whatever its two lowest
bits; outside the window reads give zero and writes are lost.
-/

namespace Blitter

/-- The number of words in the register window. -/
def registerCount : Nat := 0x1400

/-- The **content of a register window**. -/
structure RegisterFile where
  words : Vector UInt32 registerCount
  deriving DecidableEq

namespace RegisterFile

/-- All registers at zero. -/
def zero : RegisterFile := ⟨Vector.replicate registerCount 0⟩

/-- The word that an offset lies in. -/
def slot (offset : UInt32) : Nat := offset.toNat / 4

/-- The register at an offset. -/
def get (f : RegisterFile) (offset : UInt32) : UInt32 := f.words[slot offset]?.getD 0

/-- Sets the register at an offset. -/
def set (f : RegisterFile) (offset value : UInt32) : RegisterFile :=
  ⟨f.words.setIfInBounds (slot offset) value⟩

/-- The register at a fixed offset of the map. -/
def read (f : RegisterFile) (register : Nat) : UInt32 := f.get (UInt32.ofNat register)

/-- Sets the register at a fixed offset of the map. -/
def write (f : RegisterFile) (register : Nat) (value : UInt32) : RegisterFile :=
  f.set (UInt32.ofNat register) value

/-- Makes writes one after the other. -/
def apply (f : RegisterFile) (writes : List RegisterWrite) : RegisterFile :=
  writes.foldl (fun f w => f.set w.offset w.value) f

@[simp] theorem get_zero (offset : UInt32) : zero.get offset = 0 := by
  unfold zero get
  cases h : (Vector.replicate registerCount (0 : UInt32))[slot offset]? with
  | none => rfl
  | some w =>
    obtain ⟨_, hw⟩ := Vector.getElem?_eq_some_iff.1 h
    rw [← hw, Vector.getElem_replicate]
    rfl

/-- A register inside the window holds what was written to it. -/
theorem get_set_self (f : RegisterFile) {offset : UInt32} (value : UInt32)
    (h : slot offset < registerCount) : (f.set offset value).get offset = value := by
  simp [get, set, h]

/-- A write does not touch the other registers. -/
theorem get_set_of_slot_ne (f : RegisterFile) {offset other : UInt32} (value : UInt32)
    (h : slot offset ≠ slot other) : (f.set offset value).get other = f.get other := by
  simp [get, set, h]

@[simp] theorem apply_nil (f : RegisterFile) : f.apply [] = f := rfl

@[simp] theorem apply_cons (f : RegisterFile) (w : RegisterWrite) (ws : List RegisterWrite) :
    f.apply (w :: ws) = (f.set w.offset w.value).apply ws := rfl

theorem apply_append (f : RegisterFile) (ws vs : List RegisterWrite) :
    f.apply (ws ++ vs) = (f.apply ws).apply vs := List.foldl_append ..

end RegisterFile

end Blitter
