import Blitter.Proofs.RegisterFile

/-!
# Registers that both ways of writing leave alike

A program reaches the engine register by register or by way of command buffers. Some words tell
which: the control register, those of the command chain, and the shares of the read channels, one
of which is kept for fetching commands. Register files are in the **same state** if they agree on
all other words. Writes keep the state the same if they are the same up to what they write to the
read channels.
-/

namespace Blitter

namespace Register

/-- The control register. -/
def InControl (o : UInt32) : Prop := control ≤ o.toNat ∧ o.toNat < control + 4

/-- The block of the command chain. -/
def InChain (o : UInt32) : Prop := chainBaseLow ≤ o.toNat ∧ o.toNat < chainEnd + 4

/-- The blocks of the read channels. -/
def InReadChannels (o : UInt32) : Prop := readChannel 0 0 ≤ o.toNat ∧ o.toNat < readChannel 12 0

instance (o : UInt32) : Decidable (InControl o) := inferInstanceAs (Decidable (_ ∧ _))
instance (o : UInt32) : Decidable (InChain o) := inferInstanceAs (Decidable (_ ∧ _))
instance (o : UInt32) : Decidable (InReadChannels o) := inferInstanceAs (Decidable (_ ∧ _))

/-- The offset lies in a word that does not tell how programs are written. -/
def FreeOfMode (o : UInt32) : Prop := ¬ InControl o ∧ ¬ InChain o ∧ ¬ InReadChannels o

/-- The offset lies above the registers of the interface and outside the command chain. -/
def InProgram (o : UInt32) : Prop := commandId ≤ o.toNat ∧ ¬ InChain o

instance (o : UInt32) : Decidable (InProgram o) := inferInstanceAs (Decidable (_ ∧ _))

/-- All offsets of a word are free of the mode, or none is. -/
theorem FreeOfMode.slot_ne {o o' : UInt32} (h : FreeOfMode o) (h' : ¬ FreeOfMode o') :
    RegisterFile.slot o' ≠ RegisterFile.slot o := by
  simp only [FreeOfMode, InControl, InChain, InReadChannels, control, chainBaseLow, chainEnd,
    readChannel] at h h'
  unfold RegisterFile.slot
  omega

/-- All offsets of a word are in the chain, or none is. -/
theorem InChain.slot_ne {o o' : UInt32} (h : InChain o) (h' : ¬ InChain o') :
    RegisterFile.slot o' ≠ RegisterFile.slot o := by
  simp only [InChain, chainBaseLow, chainEnd] at h h'
  unfold RegisterFile.slot
  omega

end Register

/-- The write, with **nothing in it if it is one to a read channel**. -/
def RegisterWrite.masked (w : RegisterWrite) : RegisterWrite :=
  if Register.InReadChannels w.offset then { w with value := 0 } else w

/-- The part of a log that **stems from programs**: all writes above the registers of the interface
and outside the command chain, up to what is written to the read channels. -/
def programmed (log : List RegisterWrite) : List RegisterWrite :=
  (log.filter fun w => Register.InProgram w.offset).map RegisterWrite.masked

theorem programmed_append (log log' : List RegisterWrite) :
    programmed (log ++ log') = programmed log ++ programmed log' := by
  unfold programmed
  rw [List.filter_append, List.map_append]

/-- Writes that do not stem from programs are left out. -/
theorem programmed_eq_nil {ws : List RegisterWrite}
    (h : ∀ w ∈ ws, ¬ Register.InProgram w.offset) : programmed ws = [] := by
  have hnone : ∀ w ∈ ws, ¬ decide (Register.InProgram w.offset) = true := fun w hw =>
    mt of_decide_eq_true (h w hw)
  rw [programmed, List.filter_eq_nil_iff.mpr hnone, List.map_nil]

namespace RegisterFile

/-- The register files agree, apart from the words that tell **how programs are written**. -/
def SameState (f g : RegisterFile) : Prop := ∀ o, Register.FreeOfMode o → f.get o = g.get o

namespace SameState

variable {f g k : RegisterFile}

theorem refl (f : RegisterFile) : SameState f f := fun _ _ => rfl

theorem symm (h : SameState f g) : SameState g f := fun o ho => (h o ho).symm

theorem trans (h : SameState f g) (h' : SameState g k) : SameState f k := fun o ho =>
  (h o ho).trans (h' o ho)

/-- A word that tells how programs are written can hold anything. -/
theorem set_of_not_freeOfMode (f : RegisterFile) {o : UInt32} (ho : ¬ Register.FreeOfMode o)
    (value : UInt32) : SameState (f.set o value) f := fun _ ho' =>
  get_set_of_slot_ne f value (ho'.slot_ne ho)

/-- The same writes keep the state the same. -/
theorem apply_same (h : SameState f g) (ws : List RegisterWrite) :
    SameState (f.apply ws) (g.apply ws) := fun o ho => get_apply_congr ws (h o ho)

/-- Writes to words that tell how programs are written **can be left out**. -/
theorem apply_filter (f : RegisterFile) {ws : List RegisterWrite} {keeps : RegisterWrite → Bool}
    (h : ∀ w ∈ ws, keeps w = false → ¬ Register.FreeOfMode w.offset) :
    SameState (f.apply ws) (f.apply (ws.filter keeps)) := by
  induction ws generalizing f with
  | nil => exact refl f
  | cons w ws ih =>
    obtain ⟨hw, hws⟩ := List.forall_mem_cons.mp h
    cases hkeeps : keeps w with
    | true =>
      rw [List.filter_cons_of_pos hkeeps]
      exact ih _ hws
    | false =>
      rw [List.filter_cons_of_neg (by rw [hkeeps]; exact Bool.false_ne_true)]
      exact ((set_of_not_freeOfMode f (hw hkeeps) w.value).apply_same ws).trans (ih f hws)

theorem set_masked (f : RegisterFile) (w : RegisterWrite) :
    SameState (f.set w.offset w.value) (f.set w.masked.offset w.masked.value) := by
  unfold RegisterWrite.masked
  split
  case isTrue hread =>
    have hmode : ¬ Register.FreeOfMode w.offset := fun hfree => hfree.2.2 hread
    exact (set_of_not_freeOfMode f hmode w.value).trans (set_of_not_freeOfMode f hmode 0).symm
  case isFalse => exact refl _

/-- What is written to the read channels does not matter. -/
theorem apply_masked (f : RegisterFile) (ws : List RegisterWrite) :
    SameState (f.apply ws) (f.apply (ws.map RegisterWrite.masked)) := by
  induction ws generalizing f with
  | nil => exact refl f
  | cons w ws ih => exact ((set_masked f w).apply_same ws).trans (ih _)

/-- **Writes that are the same** up to the read channels keep the state the same. -/
theorem apply {ws vs : List RegisterWrite} (h : SameState f g)
    (hws : ws.map RegisterWrite.masked = vs.map RegisterWrite.masked) :
    SameState (f.apply ws) (g.apply vs) := by
  have hleft : SameState (f.apply ws) (f.apply (vs.map RegisterWrite.masked)) :=
    hws ▸ apply_masked f ws
  exact hleft.trans ((apply_masked f vs).symm.trans (h.apply_same vs))

end SameState

end RegisterFile

end Blitter
