import Blitter.RegisterFile
import Mathlib.Data.List.Nodup

/-!
# What runs of writes leave behind

A register that a run of writes reaches holds the last value written to it, whatever the register
file held before (`get_apply_eq_of_mem`), and one that it does not reach stays as it was
(`get_apply` says both). Where no register is written twice, each holds what was written
(`get_apply_of_mem`).

`Reaches` says which registers of the map a run of writes goes to, one write after the other.
-/

namespace Blitter

namespace RegisterFile

variable {f g : RegisterFile} {o : UInt32} {ws : List RegisterWrite}

/-- The words that the writes go to, in order. -/
def slots (ws : List RegisterWrite) : List Nat := ws.map fun w => slot w.offset

/-- Outside the window reads give zero. -/
theorem get_of_not_lt (f : RegisterFile) (h : ¬ slot o < registerCount) : f.get o = 0 := by
  rw [get, Vector.getElem?_eq_none (Nat.le_of_not_lt h)]
  rfl

/-- A write is seen at its own word, if that is inside the window, and nowhere else. -/
theorem get_set (f : RegisterFile) (offset value : UInt32) :
    (f.set offset value).get o =
      if slot offset = slot o ∧ slot o < registerCount then value else f.get o := by
  by_cases heq : slot offset = slot o
  · by_cases hlt : slot o < registerCount
    · have hget : (f.set offset value).get o = (f.set offset value).get offset := by
        rw [get, get, heq]
      rw [if_pos ⟨heq, hlt⟩, hget, get_set_self f value (heq ▸ hlt)]
    · rw [if_neg fun h => hlt h.2, get_of_not_lt _ hlt, get_of_not_lt _ hlt]
  · rw [if_neg fun h => heq h.1, get_set_of_slot_ne f value heq]

/-- A word that is not written to stays as it is. -/
theorem get_apply_of_notMem (f : RegisterFile) (h : slot o ∉ slots ws) :
    (f.apply ws).get o = f.get o := by
  induction ws generalizing f with
  | nil => rfl
  | cons w ws ih =>
    obtain ⟨hw, hws⟩ := not_or.mp (List.mem_cons.not.mp h)
    rw [apply_cons, ih _ hws, get_set_of_slot_ne f w.value (Ne.symm hw)]

/-- Writes keep registers the same that were the same. -/
theorem get_apply_congr (ws : List RegisterWrite) (h : f.get o = g.get o) :
    (f.apply ws).get o = (g.apply ws).get o := by
  induction ws generalizing f g with
  | nil => exact h
  | cons w ws ih =>
    refine ih ?_
    rw [get_set, get_set, h]

/-- A word that is written to **does not depend on what was there before**. -/
theorem get_apply_eq_of_mem (f g : RegisterFile) (h : slot o ∈ slots ws) :
    (f.apply ws).get o = (g.apply ws).get o := by
  induction ws generalizing f g with
  | nil => cases h
  | cons w ws ih =>
    rw [apply_cons, apply_cons]
    by_cases hws : slot o ∈ slots ws
    · exact ih _ _ hws
    · -- this is the last write to the word
      have hw : slot o = slot w.offset := (List.mem_cons.mp h).resolve_right hws
      refine get_apply_congr ws ?_
      by_cases hlt : slot o < registerCount
      · rw [get_set, get_set, if_pos ⟨hw.symm, hlt⟩, if_pos ⟨hw.symm, hlt⟩]
      · rw [get_of_not_lt _ hlt, get_of_not_lt _ hlt]

/-- Where no word is written twice, a word inside the window **holds what is written to it**. -/
theorem get_apply_of_mem (f : RegisterFile) (hnodup : (slots ws).Nodup) {w : RegisterWrite}
    (hw : w ∈ ws) (hlt : slot w.offset < registerCount) :
    (f.apply ws).get w.offset = w.value := by
  induction ws generalizing f with
  | nil => cases hw
  | cons v ws ih =>
    obtain ⟨hv, hnodup⟩ := List.nodup_cons.mp hnodup
    rcases List.mem_cons.mp hw with rfl | hw
    · rw [apply_cons, get_apply_of_notMem _ hv, get_set_self f w.value hlt]
    · exact ih _ hnodup hw

/-- The value that the writes leave at an offset: the last one that goes to its word, if one
does. -/
def lastValue? (ws : List RegisterWrite) (o : UInt32) : Option UInt32 :=
  (ws.filter fun w => slot w.offset = slot o).getLast?.map RegisterWrite.value

theorem lastValue?_cons (w : RegisterWrite) (ws : List RegisterWrite) (o : UInt32) :
    lastValue? (w :: ws) o =
      (lastValue? ws o).or (if slot w.offset = slot o then some w.value else none) := by
  simp only [lastValue?, List.filter_cons, decide_eq_true_eq]
  split
  · rw [List.getLast?_cons]
    cases (ws.filter fun w => slot w.offset = slot o).getLast? <;> rfl
  · rw [Option.or_none]

theorem lastValue?_eq_none (h : slot o ∉ slots ws) : lastValue? ws o = none := by
  have hnone : ∀ w ∈ ws, ¬ decide (slot w.offset = slot o) = true := fun w hw heq =>
    h (List.mem_map.mpr ⟨w, hw, of_decide_eq_true heq⟩)
  rw [lastValue?, List.filter_eq_nil_iff.mpr hnone]
  rfl

/-- A register inside the window holds the **last value written** to it, or what it held before. -/
theorem get_apply (f : RegisterFile) (ws : List RegisterWrite) (hlt : slot o < registerCount) :
    (f.apply ws).get o = (lastValue? ws o).getD (f.get o) := by
  induction ws generalizing f with
  | nil => rfl
  | cons w ws ih =>
    rw [apply_cons, ih, lastValue?_cons, get_set]
    by_cases h : slot w.offset = slot o
    · rw [if_pos ⟨h, hlt⟩, if_pos h]
      cases lastValue? ws o <;> rfl
    · rw [if_neg fun hw => h hw.1, if_neg h, Option.or_none]

end RegisterFile

/-! ### Registers of the map -/

/-- The writes go to **these registers**, one for each and in order. -/
def Reaches (ws : List RegisterWrite) (registers : List Nat) : Prop :=
  ws.map RegisterWrite.offset = registers.map UInt32.ofNat

namespace Reaches

variable {ws vs : List RegisterWrite} {registers others : List Nat}

theorem nil : Reaches [] [] := rfl

theorem cons (register : Nat) (value : UInt32) (h : Reaches ws registers) :
    Reaches (put register value :: ws) (register :: registers) :=
  congrArg (UInt32.ofNat register :: ·) h

theorem append (h : Reaches ws registers) (h' : Reaches vs others) :
    Reaches (ws ++ vs) (registers ++ others) := by
  unfold Reaches at *
  rw [List.map_append, List.map_append, h, h']

theorem flatMap {α : Type} {as : List α} {f : α → List RegisterWrite} {g : α → List Nat}
    (h : ∀ a ∈ as, Reaches (f a) (g a)) : Reaches (as.flatMap f) (as.flatMap g) := by
  induction as with
  | nil => exact nil
  | cons a as ih =>
    obtain ⟨ha, has⟩ := List.forall_mem_cons.mp h
    exact ha.append (ih has)

end Reaches

end Blitter
