import Blitter.Proofs.Frame

/-!
# Units that are switched on last

A channel, a read pipe, a sub-frame, the compositor and the write pipe each have one control word
with the bit that switches the unit on. The map lists it after the unit's other registers
(`getLast?_filter_all`), and a run of writes that keeps to the order of the map keeps that
(`Reaches.switchesLast`): whatever part of a unit's registers is written, the control word is
written after it.
-/

namespace Blitter

/-- A **unit** of the engine: the registers from `start` up to `stop`, among them the one that
switches the unit on. -/
structure RegisterUnit where
  start : Nat
  stop : Nat
  control : Nat
  deriving DecidableEq, Repr

namespace RegisterUnit

/-- The offset lies in the unit. -/
def Holds (u : RegisterUnit) (offset : Nat) : Prop := u.start ≤ offset ∧ offset < u.stop

instance (u : RegisterUnit) : DecidablePred u.Holds := fun offset =>
  inferInstanceAs (Decidable (u.start ≤ offset ∧ offset < u.stop))

def readChannel (n : Nat) : RegisterUnit :=
  ⟨Register.readChannel n 0, Register.readChannel (n + 1) 0,
    Register.readChannel n Register.channelBurst⟩

def writeChannel (n : Nat) : RegisterUnit :=
  ⟨Register.writeChannel n 0, Register.writeChannel (n + 1) 0,
    Register.writeChannel n Register.channelBurst⟩

/-- The block of read pipe `n`. -/
def pipe (n : Nat) : RegisterUnit :=
  ⟨Register.pipeBase n, Register.pipeBase (n + 1),
    Register.inBlock (Register.pipeBase n) Register.pipeControl⟩

def subframe (n : Nat) : RegisterUnit :=
  ⟨Register.subframe n 0, Register.subframe (n + 1) 0,
    Register.subframe n Register.subframeControl⟩

/-- The compositor, with its sub-frames and its path. -/
def mix : RegisterUnit := ⟨Register.mixControl, Register.outControl, Register.mixControl⟩

/-- The write pipe. -/
def out : RegisterUnit := ⟨Register.outControl, Register.windowSize, Register.outControl⟩

/-- The channels of a generation. -/
def channels (g : Generation) : List RegisterUnit :=
  (List.range g.readChannels).map readChannel ++ (List.range g.writeChannels).map writeChannel

/-- The units that compose. -/
def composing (g : Generation) : List RegisterUnit :=
  g.pipes.map (fun p => pipe p.index) ++ (List.range subframeCount).map subframe ++ [mix, out]

/-- Every unit of a generation's engine. -/
def all (g : Generation) : List RegisterUnit := channels g ++ composing g

theorem start_of_mem_composing {g : Generation} {u : RegisterUnit} (hu : u ∈ composing g) :
    Register.pipeBase 0 ≤ u.start := by
  have hall : ∀ u ∈ composing g, Register.pipeBase 0 ≤ u.start := by
    cases g <;> decide
  exact hall u hu

end RegisterUnit

/-! ### The order of the map -/

namespace Register

/-- The registers through which the engine is started and watched. -/
def interface : List Nat :=
  [version, control, interruptMask, interruptStatus, status, chainBaseLow, chainBaseHigh,
    chainLength, chainNextLow, chainNextHigh, chainNextLength, chainEnd]

/-- The registers of the interface are not listed. -/
theorem notMem_interface_of_mem_all {g : Generation} {r : Nat} (hr : r ∈ all g) :
    r ∉ interface := by
  have hcommon : ∀ r ∈ commonRegisters g ++ copyRegisters, r ∉ interface := by
    cases g <;> decide +kernel
  rcases List.mem_append.mp hr with hr | hr
  · exact hcommon r hr
  · have hbelow : ∀ r ∈ interface, r < pipeBase 0 := by decide
    exact fun hmem => Nat.not_lt.mpr ((lieIn_registers_full g).bounds r hr).1 (hbelow r hmem)

/-- The control word of a unit is listed **after the unit's other registers**. -/
theorem getLast?_filter_all {g : Generation} {u : RegisterUnit} (hu : u ∈ RegisterUnit.all g) :
    ((all g).filter fun r => u.Holds r).getLast? = some u.control := by
  have hall : ∀ u ∈ RegisterUnit.all g,
      ((all g).filter fun r => u.Holds r).getLast? = some u.control := by
    cases g <;> decide +kernel
  exact hall u hu

/-- The channels' control words are written whatever the engine does. -/
theorem control_mem_commonRegisters {g : Generation} {u : RegisterUnit}
    (hu : u ∈ RegisterUnit.channels g) : u.control ∈ commonRegisters g := by
  have hall : ∀ u ∈ RegisterUnit.channels g, u.control ∈ commonRegisters g := by
    cases g <;> decide +kernel
  exact hall u hu

end Register

/-- The last item of a kind stays last in a part of the list, if the part has it or has none of
the kind. -/
private theorem eq_of_getLast?_filter {α : Type} {xs ys : List α} {p : α → Prop}
    [DecidablePred p] {c : α} (hsub : xs.Sublist ys) (hnodup : ys.Nodup)
    (hlast : (ys.filter fun x => p x).getLast? = some c) (hc : c ∈ xs ∨ ∀ x ∈ xs, ¬ p x) {x : α}
    (hx : (xs.filter fun x => p x).getLast? = some x) : x = c := by
  obtain ⟨rest, hrest⟩ := List.getLast?_eq_some_iff.mp hlast
  obtain ⟨before, hbefore⟩ := List.getLast?_eq_some_iff.mp hx
  have hxmem : x ∈ xs.filter fun x => p x :=
    hbefore ▸ List.mem_append_right _ (List.mem_singleton_self x)
  have hcmem : c ∈ ys.filter fun x => p x :=
    hrest ▸ List.mem_append_right _ (List.mem_singleton_self c)
  rw [List.mem_filter, decide_eq_true_eq] at hxmem hcmem
  rcases hc with hc | hnone
  · -- what comes last of the whole can only come last of the part
    have hpart : c ∈ before ++ [x] :=
      hbefore ▸ List.mem_filter.mpr ⟨hc, decide_eq_true hcmem.2⟩
    have hparts : (before ++ [x]).Sublist (rest ++ [c]) := hbefore ▸ hrest ▸ hsub.filter _
    have hrestNodup : (rest ++ [c]).Nodup := hrest ▸ hnodup.filter _
    obtain ⟨front, back, heq, hfront, hback⟩ := List.sublist_append_iff.mp hparts
    have hcnotin : c ∉ front := fun hmem =>
      (List.nodup_append.mp hrestNodup).2.2 c (hfront.subset hmem) c (List.mem_singleton_self c) rfl
    rcases List.sublist_singleton.mp hback with rfl | rfl
    · rw [heq, List.append_nil] at hpart
      exact absurd hpart hcnotin
    · exact List.singleton_inj.mp (List.append_inj_right' heq rfl)
  · exact absurd hxmem.2 (hnone x hxmem.1)

namespace Reaches

variable {ws : List RegisterWrite} {registers : List Nat} {g : Generation}
  (h : Reaches ws registers) (hall : registers.Sublist (Register.all g))
include h hall

/-- The offsets written to are the registers themselves. -/
theorem map_toNat_offset : ws.map (fun w => w.offset.toNat) = registers := by
  have hoffsets := congrArg (List.map UInt32.toNat) h
  rw [List.map_map, List.map_map] at hoffsets
  rw [← List.map_id registers]
  refine hoffsets.trans (List.map_congr_left fun r hr => ?_)
  have hr' : r < Register.windowSize := ((Register.lieIn_all g).bounds r (hall.subset hr)).2
  have hwindow : Register.windowSize < 2 ^ 32 := by decide
  exact UInt32.toNat_ofNat_of_lt' (hr'.trans hwindow)

theorem toNat_offset_mem {w : RegisterWrite} (hw : w ∈ ws) : w.offset.toNat ∈ registers := by
  rw [← h.map_toNat_offset hall]
  exact List.mem_map_of_mem hw

/-- No register is written twice. -/
theorem nodup_map_offset : (ws.map RegisterWrite.offset).Nodup := by
  have hnodup := (Register.lieIn_all g).nodup.sublist hall
  rw [← h.map_toNat_offset hall, ← Function.comp_def UInt32.toNat RegisterWrite.offset,
    ← List.map_map] at hnodup
  exact hnodup.of_map _

/-- Of the registers of a unit that are written, the control word is **the last**, if it is written
at all or none of them is. -/
theorem switchesLast {u : RegisterUnit} (hu : u ∈ RegisterUnit.all g)
    (hcontrol : u.control ∈ registers ∨ ∀ r ∈ registers, ¬ u.Holds r) {w : RegisterWrite}
    (hw : (ws.filter fun w => u.Holds w.offset.toNat).getLast? = some w) :
    w.offset.toNat = u.control := by
  refine eq_of_getLast?_filter hall (Register.lieIn_all g).nodup
    (Register.getLast?_filter_all hu) hcontrol ?_
  rw [← h.map_toNat_offset hall, List.filter_map, List.getLast?_map]
  exact congrArg (Option.map _) hw

end Reaches

/-! ### Frames switch every unit on or off -/

namespace Frame

theorem control_mem_pipeRegisters (p : Pipe) (u : Option PipeUse) :
    Register.inBlock p.base Register.pipeControl ∈ p.registers u := by
  refine List.mem_map_of_mem ?_
  cases u with
  | none => exact List.mem_singleton_self _
  | some u => cases p.kind <;> simp [Register.pipeRegisters]

theorem control_mem_subframeRegisters (n : Nat) (keyed : Option Bool) :
    Register.subframe n Register.subframeControl ∈ Register.subframeRegisters n keyed := by
  cases keyed <;> simp [Register.subframeRegisters]

/-- A frame writes the control word of **every unit**. -/
theorem control_mem_registers {g : Generation} (f : Frame) {u : RegisterUnit}
    (hu : u ∈ RegisterUnit.all g) : u.control ∈ f.registers g := by
  unfold registers
  rcases List.mem_append.mp hu with hchannel | hunit
  · exact List.mem_append_left _ (Register.control_mem_commonRegisters hchannel)
  · refine List.mem_append_right _ ?_
    simp only [RegisterUnit.composing, List.mem_append, List.mem_map, List.mem_cons,
      List.not_mem_nil, or_false, List.mem_range] at hunit
    unfold Use.registers
    rcases hunit with (⟨p, hp, rfl⟩ | ⟨n, hn, rfl⟩) | rfl | rfl
    · refine List.mem_append_left _ (List.mem_append_left _ (List.mem_flatMap.mpr ⟨p, hp, ?_⟩))
      exact control_mem_pipeRegisters p _
    · have hsubframe : Register.subframe n Register.subframeControl ∈
          (List.range subframeCount).flatMap fun n =>
            Register.subframeRegisters n (f.use.subframe n) :=
        List.mem_flatMap.mpr ⟨n, List.mem_range.mpr hn, control_mem_subframeRegisters n _⟩
      refine List.mem_append_left _ (List.mem_append_right _ ?_)
      simp only [Register.mixRegisters, List.mem_append]
      exact .inl (.inl (.inr hsubframe))
    · refine List.mem_append_left _ (List.mem_append_right _ ?_)
      simp [Register.mixRegisters, RegisterUnit.mix]
    · refine List.mem_append_right _ ?_
      simp [Register.outRegisters, RegisterUnit.out]

end Frame

end Blitter
