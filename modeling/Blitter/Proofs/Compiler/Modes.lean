import Blitter.Proofs.Compiler.Passes
import Blitter.Proofs.Register.SameState

/-!
# Programs for either way of writing

A compiler keeps the last read channel for fetching commands if its programs are replayed from
command buffers. Nothing else that it produces tells how the engine is driven: compilers of the
`SameEngine` turn a request into passes that are `Alike`, one by one and up to what they write to
the read channels (`SameEngine.alike_of_compose`). Fills and copies do not even differ in that.
-/

namespace Blitter

/-- The passes write the same, **up to what goes to the read channels**. -/
def Pass.Alike (p q : Pass) : Prop :=
  p.writes.map RegisterWrite.masked = q.writes.map RegisterWrite.masked

/-- The passes of the programs are alike, one by one and in order. -/
def Program.Alike (p q : Program) : Prop := List.Forall₂ Pass.Alike p.passes q.passes

theorem Program.Alike.refl (p : Program) : p.Alike p := List.forall₂_same.mpr fun _ _ => rfl

/-- Passes that are alike write the same one after the other. -/
theorem map_masked_flatMap_writes {ps qs : List Pass} (h : List.Forall₂ Pass.Alike ps qs) :
    (ps.flatMap Pass.writes).map RegisterWrite.masked =
      (qs.flatMap Pass.writes).map RegisterWrite.masked := by
  induction h with
  | nil => rfl
  | cons hpass _ ih =>
    rw [List.flatMap_cons, List.flatMap_cons, List.map_append, List.map_append, ih, hpass]

/-! ### The read channels -/

/-- Of writes to the read channels it only counts where they go. -/
theorem map_masked_eq_of_reaches {ws vs : List RegisterWrite} {registers : List Nat}
    (hws : Reaches ws registers) (hvs : Reaches vs registers)
    (hin : ∀ r ∈ registers, Register.InReadChannels (UInt32.ofNat r)) :
    ws.map RegisterWrite.masked = vs.map RegisterWrite.masked := by
  have hblank : ∀ us : List RegisterWrite, Reaches us registers →
      us.map RegisterWrite.masked = registers.map fun r => put r 0 := by
    intro us hus
    have hmask : ∀ w ∈ us, w.masked = ⟨w.offset, 0⟩ := by
      intro w hw
      have hoffset : w.offset ∈ registers.map UInt32.ofNat := hus ▸ List.mem_map_of_mem hw
      obtain ⟨r, hr, hwr⟩ := List.mem_map.mp hoffset
      rw [RegisterWrite.masked, if_pos (hwr ▸ hin r hr)]
    have hoffsets := congrArg (List.map fun o => RegisterWrite.mk o 0) hus
    rw [List.map_map, List.map_map] at hoffsets
    rw [List.map_congr_left hmask]
    exact hoffsets
  rw [hblank ws hws, hblank vs hvs]

/-- Splits of the read channels write the same, **whatever the shares**. -/
theorem Allocation.map_masked_readWrites {g : Generation} {a b : Allocation}
    (ha : a.shares.length = g.readChannels) (hb : b.shares.length = g.readChannels)
    (hcopy : a.forCopy = b.forCopy) :
    a.readWrites.map RegisterWrite.masked = b.readWrites.map RegisterWrite.masked := by
  have hin : ∀ r ∈ Register.channelRegisters Register.readChannel g.readChannels,
      Register.InReadChannels (UInt32.ofNat r) := by
    cases g <;> decide
  have hchannels := map_masked_eq_of_reaches (ha ▸ Reaches.channels a Register.readChannel)
    (hb ▸ Reaches.channels b Register.readChannel) hin
  rw [readWrites, readWrites, List.map_cons, List.map_cons, hchannels, hcopy]

/-- Frames that differ in the split of the read channels have passes that are alike. -/
theorem Frame.alike_pass {g : Generation} {f : Frame} {read : Allocation}
    (hf : f.read.shares.length = g.readChannels) (hread : read.shares.length = g.readChannels)
    (hcopy : f.read.forCopy = read.forCopy) : f.pass.Alike { f with read }.pass := by
  have hreads := Allocation.map_masked_readWrites hf hread hcopy
  unfold Pass.Alike pass
  simp only [List.map_append, hreads]
  rfl

namespace Compiler

variable {c c' : Compiler} {r : Request} {p p' : Program}

/-- The compilers compile for **the same engine**. -/
structure SameEngine (c c' : Compiler) : Prop where
  generation : c.generation = c'.generation
  limits : c.limits = c'.limits

namespace SameEngine

variable (h : c.SameEngine c')
include h

/-- What they may differ in is whether programs are replayed. -/
theorem exists_eq : ∃ replays, c' = { c with replays } := by
  obtain ⟨hgeneration, hlimits⟩ := h
  exact ⟨c'.replays, by rw [hgeneration, hlimits]⟩

theorem resolveLayer (width height : UInt32) (before : List Layer) (l : Layer) :
    c.resolveLayer width height before l = c'.resolveLayer width height before l := by
  have hpipes : c.pipes = c'.pipes := congrArg Generation.pipes h.generation
  simp only [Compiler.resolveLayer, hpipes]

theorem resolveAfter (width height : UInt32) (before ls : List Layer) :
    c.resolveAfter width height before ls = c'.resolveAfter width height before ls := by
  induction ls generalizing before with
  | nil => rfl
  | cons l ls ih => rw [Compiler.resolveAfter, Compiler.resolveAfter, h.resolveLayer, ih]

theorem resolveLayers (r : Request) : c.resolveLayers r = c'.resolveLayers r :=
  h.resolveAfter _ _ _ _

theorem alike_of_composeFrame {commandId : UInt32} {isStrip : Bool} {sources : List Source}
    {target : Target} {background : Option UInt32} {porterDuff : Option PorterDuff}
    {reserved reserved' : Bool} {f f' : Frame}
    (hf : c.composeFrame commandId isStrip sources target background porterDuff reserved = .ok f)
    (hf' : c'.composeFrame commandId isStrip sources target background porterDuff reserved' =
      .ok f') : f.pass.Alike f'.pass := by
  obtain ⟨replays, rfl⟩ := h.exists_eq
  obtain ⟨read, write, wiring, hread, hwrite, hwiring, rfl⟩ := composeFrame_eq_ok_iff.mp hf
  obtain ⟨read', write', wiring', hread', hwrite', hwiring', rfl⟩ :=
    composeFrame_eq_ok_iff.mp hf'
  obtain rfl : write = write' := Outcome.eq_of_eq_ok hwrite hwrite'
  obtain rfl : wiring = wiring' := Outcome.eq_of_eq_ok hwiring hwiring'
  refine Frame.alike_pass (length_shares_of_readWeights hread)
    (length_shares_of_readWeights hread') ?_
  rw [forCopy_of_allocate hread, forCopy_of_allocate hread']

theorem alike_of_stripFrame {target : Target} {job : StripJob} {f f' : Frame}
    (hf : c.stripFrame r target job = .ok f) (hf' : c'.stripFrame r target job = .ok f') :
    f.pass.Alike f'.pass := by
  obtain ⟨sources, hsources, hf⟩ := Outcome.bind_eq_ok_iff.mp hf
  obtain ⟨sources', hsources', hf'⟩ := Outcome.bind_eq_ok_iff.mp hf'
  obtain rfl : sources = sources' := Outcome.eq_of_eq_ok hsources hsources'
  exact h.alike_of_composeFrame hf hf'

/-- A composition compiles to programs that are **alike**. -/
theorem alike_of_compose (hp : c.compose r = .ok p) (hp' : c'.compose r = .ok p') :
    p.Alike p' := by
  obtain ⟨s, frames, hs, hframes, rfl⟩ := compose_eq_ok_iff.mp hp
  obtain ⟨s', frames', hs', hframes', rfl⟩ := compose_eq_ok_iff.mp hp'
  simp only [split, Outcome.bind_eq_ok_iff] at hs hs'
  obtain ⟨target, htarget, sources, hsources, strips, hstrips, hs⟩ := hs
  obtain ⟨target', htarget', sources', hsources', strips', hstrips', hs'⟩ := hs'
  -- both are checked and planned the same way
  obtain rfl : target = target' := Outcome.eq_of_eq_ok htarget htarget'
  rw [← h.resolveLayers] at hsources'
  obtain rfl : sources = sources' := Outcome.eq_of_eq_ok hsources hsources'
  rw [← h.limits] at hstrips'
  obtain rfl : strips = strips' := Outcome.eq_of_eq_ok hstrips hstrips'
  unfold Program.Alike
  rw [List.forall₂_map_left_iff, List.forall₂_map_right_iff]
  cases strips with
  | false =>
    cases hs
    cases hs'
    obtain ⟨f, hf, hframes⟩ := Outcome.bind_eq_ok_iff.mp hframes
    obtain ⟨f', hf', hframes'⟩ := Outcome.bind_eq_ok_iff.mp hframes'
    cases hframes
    cases hframes'
    exact .cons (h.alike_of_composeFrame hf hf') .nil
  | true =>
    obtain ⟨jobs, hjobs, hs⟩ := Outcome.bind_eq_ok_iff.mp hs
    obtain ⟨jobs', hjobs', hs'⟩ := Outcome.bind_eq_ok_iff.mp hs'
    rw [← h.limits] at hjobs'
    obtain rfl : jobs = jobs' := Outcome.eq_of_eq_ok hjobs hjobs'
    cases hs
    cases hs'
    rw [Split.frames, List.mapM_map] at hframes hframes'
    exact Outcome.forall₂_of_mapM hframes hframes' fun _ _ _ _ hf hf' =>
      h.alike_of_stripFrame hf hf'

/-- Fills need the last read channel whatever is fetched through it. -/
theorem fill (f : Fill) (output : Output) : c.fill f output = c'.fill f output := by
  obtain ⟨replays, rfl⟩ := h.exists_eq
  rfl

/-- Copies do not share the read channels. -/
theorem copy (k : Copy) : c.copy k = c'.copy k := by
  obtain ⟨replays, rfl⟩ := h.exists_eq
  rfl

end SameEngine

end Compiler

end Blitter
