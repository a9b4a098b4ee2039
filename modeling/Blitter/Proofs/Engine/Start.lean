import Blitter.Proofs.Engine.Chain

/-!
# Starting an engine

What a start does is the same on every engine: it carries out the pass in the registers
(`write_startDirect`), or every pass of a chain that was linked and uploaded (`IsChain`,
`write_startChain`), and reports that it did. A quiet engine raises an interrupt then that says so.
What the start itself leaves in the registers and the log is not part of any program.
-/

namespace Blitter

open CommandBuffer BufferPool

namespace Engine

variable {e e' : Engine}

/-- The engine when a write of that value to the control register **has just started it**. -/
def started (e : Engine) (value : UInt32) : Engine :=
  { { e with journal := put Register.control value :: e.journal }.store Register.control
      (value &&& ~~~Register.controlStart) with starts := e.starts + 1 }

theorem log_started (e : Engine) (value : UInt32) :
    (e.started value).log = e.log ++ [put Register.control value] :=
  e.log_cons (put Register.control value)

namespace Ran

/-- Storing a word that tells how programs are written counts for nothing. -/
theorem of_store (h : e.Quiet) {register : Nat}
    (hfree : ¬ Register.FreeOfMode (UInt32.ofNat register))
    (hmask : RegisterFile.slot (UInt32.ofNat register) ≠
      RegisterFile.slot (UInt32.ofNat Register.interruptMask))
    (hstatus : RegisterFile.slot (UInt32.ofNat register) ≠
      RegisterFile.slot (UInt32.ofNat Register.interruptStatus)) (value : UInt32) :
    e.Ran (e.store register value) [] where
  quiet := h.store hmask hstatus value
  registers := .set_of_not_freeOfMode _ hfree value
  log := (List.append_nil _).symm

/-- A write below the programs that is only logged counts for nothing. -/
theorem of_journal (h : e.Quiet) {w : RegisterWrite} (hw : ¬ Register.InProgram w.offset) :
    e.Ran { e with journal := w :: e.journal } [] where
  quiet := ⟨h.hangs, h.fault, h.mask, h.status⟩
  registers := .refl _
  log := by
    have hnone : ∀ v ∈ [w], ¬ Register.InProgram v.offset := List.forall_mem_singleton.mpr hw
    rw [log_cons, programmed_append, programmed_eq_nil hnone]
    rfl

/-- The start itself counts for nothing. -/
theorem of_started (h : e.Quiet) (value : UInt32) : e.Ran (e.started value) [] := by
  have hlogged := of_journal h (w := put Register.control value)
    (show ¬ Register.InProgram (UInt32.ofNat Register.control) by decide)
  have hfree : ¬ Register.FreeOfMode (UInt32.ofNat Register.control) :=
    fun hfree => hfree.1 (by decide)
  have hstored := hlogged.trans (of_store hlogged.quiet hfree (by decide) (by decide)
    (value &&& ~~~Register.controlStart))
  exact ⟨⟨hstored.quiet.hangs, hstored.quiet.fault, hstored.quiet.mask, hstored.quiet.status⟩,
    hstored.registers, hstored.log⟩

/-- Once the report of a run is acknowledged, the run is all that is left. -/
theorem acknowledged {ws : List RegisterWrite} (h : e.Ran e' ws) (bits : UInt32) :
    e.Ran (e'.acknowledged bits) ws where
  quiet := h.quiet.acknowledged bits
  registers := by
    have hsame : (e'.acknowledged bits).registers.SameState e'.registers :=
      fun o _ => get_acknowledged h.quiet bits o
    exact hsame.trans h.registers
  log := by
    have hlog : (e'.acknowledged bits).log =
        e'.log ++ [put Register.interruptStatus bits] := List.reverse_cons
    have hnone : ∀ w ∈ [put Register.interruptStatus bits], ¬ Register.InProgram w.offset := by
      refine List.forall_mem_singleton.mpr ?_
      show ¬ Register.InProgram (UInt32.ofNat Register.interruptStatus)
      decide
    rw [hlog, programmed_append, programmed_eq_nil hnone, List.append_nil, h.log]

end Ran

/-- A write to the control register that starts the engine **runs it, and reports the run**. -/
theorem write_start (e : Engine) {value : UInt32} (hreset : value &&& Register.controlReset = 0)
    (hstart : value &&& Register.controlStart ≠ 0) :
    e.write (put Register.control value) =
      ((e.started value).run value).1.reporting ((e.started value).run value).2 := by
  have hoffset : (put Register.control value).offset.toNat = Register.control := by
    show (UInt32.ofNat Register.control).toNat = Register.control
    decide
  have hvalue : (put Register.control value).value = value := rfl
  simp only [write, hoffset, hvalue, hreset, hstart, true_and, ne_eq, not_true_eq_false, if_false,
    not_false_eq_true, if_true]
  rfl

/-! ### A start on the registers -/

/-- The pass in the registers **is carried out**. -/
theorem write_startDirect (e : Engine) :
    e.write (put Register.control Register.controlStart) =
      reporting { e.started Register.controlStart with frames := e.frames + 1 }
        Status.frameDone := by
  have hdirect : ¬ Register.controlStart &&& Register.controlChain ≠ 0 := by decide
  rw [write_start e (by decide) (by decide), run, if_neg hdirect]
  rfl

/-- A quiet engine carries it out as a program wants it. -/
theorem exists_write_startDirect (h : e.Quiet) :
    ∃ e', e.write (put Register.control Register.controlStart) =
        (e'.store Register.interruptStatus Status.frameDone, some Status.frameDone) ∧
      e.Ran e' [] := by
  have hstarted := Ran.of_started h Register.controlStart
  have hquiet :
      Quiet { e.started Register.controlStart with frames := e.frames + 1 } :=
    ⟨hstarted.quiet.hangs, hstarted.quiet.fault, hstarted.quiet.mask, hstarted.quiet.status⟩
  refine ⟨_, ?_, hquiet, hstarted.registers, hstarted.log⟩
  rw [write_startDirect, reporting_of_quiet hquiet (by decide) (by decide)]

/-! ### A start on a chain -/

section Chain

variable {bs rest : List CommandBuffer} {first : CommandBuffer} {wss : List (List RegisterWrite)}

/-- The writes that tell the engine where a chain starts. -/
def baseWrites (address : UInt64) (entries : Nat) : List RegisterWrite :=
  [ put Register.chainBaseLow (lowWord address), put Register.chainBaseHigh (highWord address),
    put Register.chainLength (UInt32.ofNat entries) ]

theorem inChain_baseWrites (address : UInt64) (entries : Nat) :
    ∀ w ∈ baseWrites address entries, Register.InChain w.offset := by
  simp only [baseWrites, List.forall_mem_cons, put]
  exact ⟨by decide, by decide, by decide, fun _ h => absurd h List.not_mem_nil⟩

/-- The buffers hold runs of writes, one each, and are **joined to a chain** that begins with
`first`. What they hold leaves the registers of the chain alone. They lie apart in memory. -/
structure IsJoined (wss : List (List RegisterWrite)) (bs : List CommandBuffer)
    (first : CommandBuffer) (rest : List CommandBuffer) : Prop where
  laid : Laid wss bs
  linked : link bs = first :: rest
  outside : ∀ ws ∈ wss, ∀ w ∈ ws, ¬ Register.InChain w.offset
  nodup : (bs.map CommandBuffer.address).Nodup

/-- The buffers are joined, and every trailer **tells how long** the buffer is to which it leads:
their pairs can be counted in a register. -/
structure IsLinked (wss : List (List RegisterWrite)) (bs : List CommandBuffer)
    (first : CommandBuffer) (rest : List CommandBuffer) : Prop
    extends IsJoined wss bs first rest where
  counted : ∀ b ∈ first :: rest, b.entries < 2 ^ 32

/-- What the linked buffers hold **are programs**. -/
structure IsChain (wss : List (List RegisterWrite)) (bs : List CommandBuffer)
    (first : CommandBuffer) (rest : List CommandBuffer) : Prop
    extends IsLinked wss bs first rest where
  program : ∀ ws ∈ wss, ∀ w ∈ ws, Register.InProgram w.offset

/-- Uploads count for nothing. -/
theorem Ran.of_uploadAll (h : e.Quiet) (bs : List CommandBuffer) : e.Ran (e.uploadAll bs) [] := by
  obtain ⟨memory, hmemory⟩ := e.uploadAll_eq bs
  rw [hmemory]
  exact ⟨⟨h.hangs, h.fault, h.mask, h.status⟩, .refl _, (List.append_nil _).symm⟩

/-- The chain is in command memory, and the registers say **where it starts**. -/
structure LeadsTo (e : Engine) (first : CommandBuffer) (rest : List CommandBuffer) : Prop where
  memory : ∀ b ∈ first :: rest, e.buffer? b.address = some b.words
  count : (first :: rest).length ≤ e.bufferCount
  address : joinWords (e.read Register.chainBaseHigh) (e.read Register.chainBaseLow) =
    first.address
  entries : e.read Register.chainLength = UInt32.ofNat first.entries

/-- The engine with a chain **in its memory and the start of the chain in its registers**. -/
def based (e : Engine) (first : CommandBuffer) (rest : List CommandBuffer) : Engine :=
  (e.uploadAll (first :: rest)).replayAll (baseWrites first.address first.entries)

theorem log_based (e : Engine) (first : CommandBuffer) (rest : List CommandBuffer) :
    (e.based first rest).log = e.log ++ baseWrites first.address first.entries := by
  obtain ⟨memory, hmemory⟩ := e.uploadAll_eq (first :: rest)
  rw [based, log_replayAll, hmemory]
  rfl

theorem leadsTo_based (hnodup : ((first :: rest).map CommandBuffer.address).Nodup) :
    (e.based first rest).LeadsTo first rest := by
  have hbuffers := buffer?_uploadAll e hnodup
  have hcount := length_le_bufferCount hnodup fun a ha => by
    obtain ⟨b, hb, rfl⟩ := List.mem_map.mp ha
    exact ⟨b.words, hbuffers b hb⟩
  rw [List.length_map] at hcount
  obtain ⟨haddress, hlength⟩ := read_replayAll_pointer
    (show ([Register.chainBaseLow, Register.chainBaseHigh, Register.chainLength].map fun r =>
      RegisterFile.slot (UInt32.ofNat r)).Nodup by decide) (by decide)
    (e.uploadAll (first :: rest)) [] first.address first.entries
  rw [List.nil_append] at haddress hlength
  refine ⟨?_, ?_, haddress, hlength⟩
  · rw [based, replayAll_eq]
    exact hbuffers
  · rw [based, replayAll_eq]
    exact hcount

/-- The start itself leaves the chain where it is. -/
theorem LeadsTo.started (h : e.LeadsTo first rest) (value : UInt32) :
    (e.started value).LeadsTo first rest := by
  have hread : ∀ r ∈ [Register.chainBaseLow, Register.chainBaseHigh, Register.chainLength],
      (e.started value).read r = e.read r := by
    intro r hr
    have hslot : ∀ r ∈ [Register.chainBaseLow, Register.chainBaseHigh, Register.chainLength],
        RegisterFile.slot (UInt32.ofNat Register.control) ≠
          RegisterFile.slot (UInt32.ofNat r) := by decide
    exact RegisterFile.get_set_of_slot_ne _ _ (hslot r hr)
  refine ⟨h.memory, h.count, ?_, ?_⟩
  · rw [hread _ (by decide), hread _ (by decide), h.address]
  · rw [hread _ (by decide), h.entries]

/-- The engine once it **replayed the chain** of these buffers. -/
def afterChain (e : Engine) (bs : List CommandBuffer) : Engine :=
  { (e.store Register.chainEnd 0).replayAll (replayed (link bs)) with
    frames := e.frames + bs.length }

theorem log_afterChain (e : Engine) (bs : List CommandBuffer) :
    (e.afterChain bs).log = e.log ++ replayed (link bs) :=
  (e.store Register.chainEnd 0).log_replayAll _

/-- The control word that starts the engine on a chain. -/
def startChain : UInt32 := Register.controlChain ||| Register.controlStart

section Linked

variable (h : IsLinked wss bs first rest)
include h

/-- A chain that the registers lead to is **replayed in full**. -/
theorem run_startChain (hleads : e.LeadsTo first rest) :
    e.run startChain = (e.afterChain bs, Status.frameDone ||| Status.chainDone) := by
  have hend : (e.store Register.chainEnd 0).read Register.chainEnd = 0 := by
    have hlt : RegisterFile.slot (UInt32.ofNat Register.chainEnd) < registerCount := by decide
    exact RegisterFile.get_set_self _ _ hlt
  have hmemory : ∀ b ∈ first :: rest,
      (e.store Register.chainEnd 0).buffer? b.address = some b.words := hleads.memory
  have hcount : bs.length ≤ e.bufferCount := by
    rw [← length_link, h.linked]
    exact hleads.count
  have hreplay : e.replayChain =
      ((e.store Register.chainEnd 0).replayAll (replayed (link bs)), some bs.length) := by
    rw [replayChain, hleads.address, hleads.entries,
      UInt32.toNat_ofNat_of_lt' (h.counted first List.mem_cons_self),
      replayFrom_link h.laid h.outside h.linked hmemory h.counted hend 0 hcount, Nat.zero_add]
  have hchained : startChain &&& Register.controlChain ≠ 0 := by decide
  rw [run, if_pos hchained, hreplay, afterChain, replayAll_eq]
  rfl

/-- **A start on a chain that was uploaded** carries out the passes in it, one after the other. -/
theorem write_startChain (e : Engine) :
    (e.based first rest).write (put Register.control startChain) =
      (((e.based first rest).started startChain).afterChain bs).reporting
        (Status.frameDone ||| Status.chainDone) := by
  have hnodup := h.nodup
  rw [← map_address_link, h.linked] at hnodup
  have hleads := (leadsTo_based (e := e) hnodup).started startChain
  rw [write_start _ (by decide) (by decide), run_startChain h hleads]

end Linked

variable (h : IsChain wss bs first rest)
include h

/-- A quiet engine that replayed a chain ran the passes in it. -/
theorem Ran.of_afterChain (hquiet : e.Quiet) : e.Ran (e.afterChain bs) wss.flatten := by
  have hfree : ¬ Register.FreeOfMode (UInt32.ofNat Register.chainEnd) :=
    fun hfree => hfree.2.1 (by decide)
  have hstore := Ran.of_store hquiet hfree (by decide) (by decide) 0
  have hran := hstore.trans (Ran.of_replayAll_filter hstore.quiet
    (inProgram_or_inChain_of_mem_replayed h.laid h.program))
  rw [filter_replayed_link h.laid h.program, List.nil_append] at hran
  exact ⟨⟨hran.quiet.hangs, hran.quiet.fault, hran.quiet.mask, hran.quiet.status⟩,
    hran.registers, hran.log⟩

/-- A quiet engine carries the passes out as the program wants them. -/
theorem exists_write_startChain (hquiet : e.Quiet) :
    ∃ e', (e.based first rest).write (put Register.control startChain) =
        (e'.store Register.interruptStatus (Status.frameDone ||| Status.chainDone),
          some (Status.frameDone ||| Status.chainDone)) ∧
      e.Ran e' wss.flatten := by
  have hupload := Ran.of_uploadAll hquiet (first :: rest)
  have hbase := hupload.trans (Ran.of_replayAll_chain hupload.quiet
    (inChain_baseWrites first.address first.entries))
  have hstarted := hbase.trans (Ran.of_started hbase.quiet startChain)
  have hran := hstarted.trans (Ran.of_afterChain h hstarted.quiet)
  refine ⟨_, ?_, hran⟩
  rw [write_startChain h.toIsLinked]
  exact reporting_of_quiet hran.quiet (by decide) (by decide)

end Chain

end Engine

end Blitter
