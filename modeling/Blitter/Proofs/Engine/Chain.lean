import Blitter.Proofs.CommandBuffer
import Blitter.Proofs.Engine
import Blitter.Proofs.Register.Field
import Mathlib.Data.List.Perm.Subperm

/-!
# Replaying a chain

A chain that was linked and uploaded is replayed buffer by buffer, in order, and ends at its last
buffer (`replayFrom_link`). What the engine makes of it are the writes that the chain holds, and
no others (`replayed`); all of them that do not belong to the chain itself are the writes of the
passes in it (`filter_replayed_link`). None of this depends on what the engine was before.
-/

namespace Blitter

open CommandBuffer BufferPool

namespace Engine

variable {e : Engine} {bs : List CommandBuffer} {b : CommandBuffer} {ws : List RegisterWrite}

/-! ### Command memory -/

theorem lookup_filter_ne {α β : Type} [DecidableEq α] (table : List (α × β)) {a a' : α}
    (h : a ≠ a') : (table.filter fun m => m.1 != a').lookup a = table.lookup a := by
  induction table with
  | nil => rfl
  | cons m table ih =>
    obtain ⟨k, v⟩ := m
    by_cases hk : k = a'
    · subst hk
      have hout : ((k, v) :: table).filter (fun m => m.1 != k) = table.filter fun m => m.1 != k :=
        List.filter_cons_of_neg (by simp)
      have hmiss : (a == k) = false := beq_eq_false_iff_ne.mpr h
      rw [hout, ih, List.lookup_cons, hmiss]
    · have hin : ((k, v) :: table).filter (fun m => m.1 != a') =
          (k, v) :: table.filter fun m => m.1 != a' :=
        List.filter_cons_of_pos (bne_iff_ne.mpr hk)
      rw [hin, List.lookup_cons, List.lookup_cons, ih]

@[simp] theorem buffer?_upload_self (e : Engine) (address : UInt64) (words : List UInt32) :
    (e.upload address words).buffer? address = some words := List.lookup_cons_self

theorem buffer?_upload_of_ne (e : Engine) {address other : UInt64} (words : List UInt32)
    (h : other ≠ address) : (e.upload address words).buffer? other = e.buffer? other := by
  have hmiss : (other == address) = false := beq_eq_false_iff_ne.mpr h
  rw [buffer?, upload, List.lookup_cons, hmiss]
  exact lookup_filter_ne e.memory h

/-- Uploads buffers one after the other. -/
def uploadAll (e : Engine) (bs : List CommandBuffer) : Engine :=
  bs.foldl (fun e b => e.upload b.address b.words) e

theorem uploadAll_eq (e : Engine) (bs : List CommandBuffer) :
    ∃ memory, e.uploadAll bs = { e with memory } := by
  induction bs generalizing e with
  | nil => exact ⟨e.memory, rfl⟩
  | cons b bs ih =>
    obtain ⟨memory, hmemory⟩ := ih (e.upload b.address b.words)
    exact ⟨memory, hmemory⟩

theorem buffer?_uploadAll_of_notMem (e : Engine) {other : UInt64}
    (h : other ∉ bs.map CommandBuffer.address) :
    (e.uploadAll bs).buffer? other = e.buffer? other := by
  induction bs generalizing e with
  | nil => rfl
  | cons b bs ih =>
    obtain ⟨hb, hbs⟩ := not_or.mp (List.mem_cons.not.mp h)
    exact (ih _ hbs).trans (e.buffer?_upload_of_ne b.words hb)

/-- Buffers at different addresses are **all there** once they are uploaded. -/
theorem buffer?_uploadAll (e : Engine) (hnodup : (bs.map CommandBuffer.address).Nodup) :
    ∀ b ∈ bs, (e.uploadAll bs).buffer? b.address = some b.words := by
  induction bs generalizing e with
  | nil => exact fun _ hb => absurd hb List.not_mem_nil
  | cons b bs ih =>
    obtain ⟨hb, hbs⟩ := List.nodup_cons.mp hnodup
    refine List.forall_mem_cons.mpr ⟨?_, ih _ hbs⟩
    exact (buffer?_uploadAll_of_notMem _ hb).trans (e.buffer?_upload_self b.address b.words)

@[simp] theorem buffer?_replayAll (e : Engine) (ws : List RegisterWrite) (address : UInt64) :
    (e.replayAll ws).buffer? address = e.buffer? address := by
  rw [replayAll_eq]
  rfl

theorem length_le_bufferCount {addresses : List UInt64} (hnodup : addresses.Nodup)
    (h : ∀ a ∈ addresses, ∃ words, e.buffer? a = some words) :
    addresses.length ≤ e.bufferCount := by
  have hsubset : addresses ⊆ e.memory.map Prod.fst := by
    intro a ha
    obtain ⟨words, hwords⟩ := h a ha
    have hsome : (e.memory.lookup a).isSome = true := Option.isSome_iff_exists.mpr ⟨words, hwords⟩
    obtain ⟨m, hm, heq⟩ := List.lookup_isSome_iff.mp hsome
    exact List.mem_map.mpr ⟨m, hm, (beq_iff_eq.mp heq).symm⟩
  have hle := (hnodup.subperm hsubset).length_le
  rwa [List.length_map] at hle

/-! ### Words in pairs -/

theorem pairs_wordsOf (ws : List RegisterWrite) : pairs (wordsOf ws) = ws := by
  induction ws with
  | nil => rfl
  | cons w ws ih => exact congrArg (w :: ·) ih

/-! ### Trailers -/

theorem inChain_linkTo (address : UInt64) (entries : Nat) :
    ∀ w ∈ linkTo address entries, Register.InChain w.offset := by
  simp only [linkTo, List.forall_mem_cons, put]
  exact ⟨by decide, by decide, by decide, fun _ h => absurd h List.not_mem_nil⟩

theorem inChain_endMark : ∀ w ∈ endMark, Register.InChain w.offset := by decide

/-- An address and a number of pairs, as the words of the chain hold them, are there **after they
are replayed**. -/
theorem read_replayAll_pointer {low high length : Nat}
    (hnodup : ([low, high, length].map fun r => RegisterFile.slot (UInt32.ofNat r)).Nodup)
    (hlt : ∀ r ∈ [low, high, length], RegisterFile.slot (UInt32.ofNat r) < registerCount)
    (e : Engine) (ws : List RegisterWrite) (address : UInt64) (entries : Nat) :
    let pointer := [put low (lowWord address), put high (highWord address),
      put length (UInt32.ofNat entries)]
    joinWords ((e.replayAll (ws ++ pointer)).read high) ((e.replayAll (ws ++ pointer)).read low) =
        address ∧
      (e.replayAll (ws ++ pointer)).read length = UInt32.ofNat entries := by
  intro pointer
  have hslots : (RegisterFile.slots pointer).Nodup := hnodup
  have hread : ∀ r value, put r value ∈ pointer →
      RegisterFile.slot (UInt32.ofNat r) < registerCount →
        (e.replayAll (ws ++ pointer)).read r = value := by
    intro r value hw hlt
    rw [replayAll_eq, Engine.read, RegisterFile.apply_append]
    exact RegisterFile.get_apply_of_mem _ hslots hw hlt
  have hlow := hread low (lowWord address) List.mem_cons_self (hlt low List.mem_cons_self)
  have hhigh := hread high (highWord address) (List.mem_cons_of_mem _ List.mem_cons_self)
    (hlt high (List.mem_cons_of_mem _ List.mem_cons_self))
  have hlength := hread length (UInt32.ofNat entries)
    (List.mem_cons_of_mem _ (List.mem_cons_of_mem _ List.mem_cons_self))
    (hlt length (List.mem_cons_of_mem _ (List.mem_cons_of_mem _ List.mem_cons_self)))
  rw [hlow, hhigh, hlength]
  exact ⟨joinWords_highWord_lowWord address, rfl⟩

/-- A trailer that leads on leaves **where it leads** in the registers. -/
theorem read_replayAll_linkTo (e : Engine) (ws : List RegisterWrite) (address : UInt64)
    (entries : Nat) :
    joinWords ((e.replayAll (ws ++ linkTo address entries)).read Register.chainNextHigh)
        ((e.replayAll (ws ++ linkTo address entries)).read Register.chainNextLow) = address ∧
      (e.replayAll (ws ++ linkTo address entries)).read Register.chainNextLength =
        UInt32.ofNat entries :=
  read_replayAll_pointer (by decide) (by decide) e ws address entries

/-- A register that is not written keeps its value. -/
theorem read_replayAll_of_notMem (e : Engine) {register : Nat}
    (h : RegisterFile.slot (UInt32.ofNat register) ∉ RegisterFile.slots ws) :
    (e.replayAll ws).read register = e.read register := by
  rw [replayAll_eq, Engine.read]
  exact RegisterFile.get_apply_of_notMem _ h

/-- Writes outside the chain **leave its registers alone**. -/
theorem read_replayAll_of_outside (e : Engine) (hws : ∀ w ∈ ws, ¬ Register.InChain w.offset)
    {register : Nat} (hregister : Register.InChain (UInt32.ofNat register)) :
    (e.replayAll ws).read register = e.read register := by
  refine e.read_replayAll_of_notMem fun hmem => ?_
  obtain ⟨w, hw, heq⟩ := List.mem_map.mp hmem
  exact hregister.slot_ne (hws w hw) heq

/-- The end of the chain is not marked by writes outside the chain, nor by a trailer that leads
on. -/
theorem read_chainEnd_replayAll_linkTo (e : Engine)
    (hws : ∀ w ∈ ws, ¬ Register.InChain w.offset) (address : UInt64) (entries : Nat) :
    (e.replayAll (ws ++ linkTo address entries)).read Register.chainEnd =
      e.read Register.chainEnd := by
  have hout : RegisterFile.slot (UInt32.ofNat Register.chainEnd) ∉
      RegisterFile.slots (linkTo address entries) := by
    have hdistinct : RegisterFile.slot (UInt32.ofNat Register.chainEnd) ∉
        [Register.chainNextLow, Register.chainNextHigh, Register.chainNextLength].map fun r =>
          RegisterFile.slot (UInt32.ofNat r) := by decide
    exact hdistinct
  rw [replayAll_append, read_replayAll_of_notMem _ hout,
    e.read_replayAll_of_outside hws (by decide)]

theorem read_chainEnd_replayAll_endMark (e : Engine) (ws : List RegisterWrite) :
    (e.replayAll (ws ++ endMark)).read Register.chainEnd = 1 := by
  rw [replayAll_eq, Engine.read, RegisterFile.apply_append]
  exact RegisterFile.get_set_self _ _ (by decide)

theorem words_push (hwords : b.words = wordsOf ws) (vs : List RegisterWrite) :
    (b.push vs).words = wordsOf (ws ++ vs) := by
  rw [wordsOf_append, ← hwords]
  rfl

theorem entries_push (hwords : b.words = wordsOf ws) (vs : List RegisterWrite) :
    (b.push vs).entries = ws.length + vs.length := by
  rw [entries, words_push hwords, length_wordsOf, List.length_append]
  omega

/-- A buffer with its trailer has **three pairs more** at most. -/
theorem entries_push_trailerTo_le (hwords : b.words = wordsOf ws) (next : Option CommandBuffer) :
    (b.push (trailerTo next)).entries ≤ ws.length + 3 := by
  have htrailer : (trailerTo next).length ≤ 3 := by
    cases next with
    | none => exact Nat.le_of_lt (by decide)
    | some next => exact Nat.le_refl 3
  rw [entries_push hwords]
  omega

/-- The first buffer of a chain is where the trailer **before it leads**. -/
theorem exists_link_eq_cons (hused : b.used = true) (bs : List CommandBuffer) :
    ∃ next, link (b :: bs) = next :: link bs ∧
      trailerTo ((link (b :: bs)).find? CommandBuffer.used) =
        linkTo next.address next.entries := by
  have hlink := link_cons_of_used hused bs
  have hfind : (link (b :: bs)).find? CommandBuffer.used =
      some (b.push (trailerTo ((link bs).find? CommandBuffer.used))) := by
    rw [hlink]
    exact List.find?_cons_of_pos hused
  refine ⟨_, hlink, ?_⟩
  rw [hfind]
  rfl

/-- The pairs of short runs of writes **can be counted in a word**, trailers and all. -/
theorem entries_lt_of_mem_link {wss : List (List RegisterWrite)} (h : Laid wss bs)
    (hshort : ∀ ws ∈ wss, ws.length + 3 < 2 ^ 32) : ∀ b ∈ link bs, b.entries < 2 ^ 32 := by
  induction h with
  | nil => exact fun _ hb => absurd hb List.not_mem_nil
  | @cons ws b wss bs hb _ ih =>
    obtain ⟨hws, hwss⟩ := List.forall_mem_cons.mp hshort
    rw [link_cons_of_used hb.1]
    exact List.forall_mem_cons.mpr
      ⟨Nat.lt_of_le_of_lt (entries_push_trailerTo_le hb.2 _) hws, ih hwss⟩

/-! ### Replaying -/

/-- One buffer is replayed **in full**. -/
theorem replayFrom_succ {b : CommandBuffer} (hb : e.buffer? b.address = some b.words)
    (hwords : b.words = wordsOf ws) (done fuel : Nat) :
    e.replayFrom b.address b.entries done (fuel + 1) =
      if (e.replayAll ws).read Register.chainEnd ≠ 0 then (e.replayAll ws, some (done + 1))
      else
        (e.replayAll ws).replayFrom
          (joinWords ((e.replayAll ws).read Register.chainNextHigh)
            ((e.replayAll ws).read Register.chainNextLow))
          ((e.replayAll ws).read Register.chainNextLength).toNat (done + 1) fuel := by
  have hentries : b.entries = ws.length := by
    rw [entries, hwords, length_wordsOf]
    omega
  have htake : (pairs b.words).take b.entries = ws := by
    rw [hwords, pairs_wordsOf, hentries, List.take_length]
  simp only [replayFrom, hb, htake]
  rfl

/-- The last buffer of a chain **ends the replay**. -/
theorem replayFrom_last (hb : e.buffer? b.address = some b.words)
    (hwords : b.words = wordsOf (ws ++ endMark)) (done fuel : Nat) :
    e.replayFrom b.address b.entries done (fuel + 1) =
      (e.replayAll (ws ++ endMark), some (done + 1)) := by
  have hmark : (e.replayAll (ws ++ endMark)).read Register.chainEnd ≠ 0 := by
    rw [read_chainEnd_replayAll_endMark]
    decide
  rw [replayFrom_succ hb hwords]
  exact if_pos hmark

/-- Any other buffer **leads on to the next one**, of which it tells as many pairs as one word
can. -/
theorem replayFrom_next {next : CommandBuffer} (hb : e.buffer? b.address = some b.words)
    (hwords : b.words = wordsOf (ws ++ linkTo next.address next.entries))
    (hend : (e.replayAll (ws ++ linkTo next.address next.entries)).read Register.chainEnd = 0)
    (done fuel : Nat) :
    e.replayFrom b.address b.entries done (fuel + 1) =
      (e.replayAll (ws ++ linkTo next.address next.entries)).replayFrom next.address
        (next.entries % 2 ^ 32) (done + 1) fuel := by
  obtain ⟨haddress, hcount⟩ := read_replayAll_linkTo e ws next.address next.entries
  rw [replayFrom_succ hb hwords, if_neg (not_not.mpr hend), haddress, hcount, UInt32.toNat_ofNat']

/-- The writes that buffers hold, **one buffer after the other**. -/
def replayed (bs : List CommandBuffer) : List RegisterWrite := bs.flatMap fun b => pairs b.words

theorem replayed_link_cons (hused : b.used = true) (hwords : b.words = wordsOf ws)
    (bs : List CommandBuffer) :
    replayed (link (b :: bs)) =
      ws ++ trailerTo ((link bs).find? CommandBuffer.used) ++ replayed (link bs) := by
  rw [link_cons_of_used hused, replayed, List.flatMap_cons, words_push hwords, pairs_wordsOf]
  rfl

theorem inChain_trailerTo (next : Option CommandBuffer) :
    ∀ w ∈ trailerTo next, Register.InChain w.offset := by
  cases next with
  | none => exact inChain_endMark
  | some next => exact inChain_linkTo next.address next.entries

section Laid

variable {wss : List (List RegisterWrite)} (h : Laid wss bs)
include h

section Program

variable (hprogram : ∀ ws ∈ wss, ∀ w ∈ ws, Register.InProgram w.offset)
include hprogram

/-- A linked chain holds writes of programs and writes to the chain. -/
theorem inProgram_or_inChain_of_mem_replayed :
    ∀ w ∈ replayed (link bs), Register.InProgram w.offset ∨ Register.InChain w.offset := by
  induction h with
  | nil => exact fun _ hw => absurd hw List.not_mem_nil
  | @cons ws b wss bs hb _ ih =>
    obtain ⟨hws, hwss⟩ := List.forall_mem_cons.mp hprogram
    intro w hw
    rw [replayed_link_cons hb.1 hb.2, List.mem_append, List.mem_append] at hw
    rcases hw with (hw | hw) | hw
    · exact .inl (hws w hw)
    · exact .inr (inChain_trailerTo _ w hw)
    · exact ih hwss w hw

/-- Without the trailers a linked chain holds **the writes of its passes**, in order. -/
theorem filter_replayed_link :
    (replayed (link bs)).filter (fun w => Register.InProgram w.offset) = wss.flatten := by
  induction h with
  | nil => rfl
  | @cons ws b wss bs hb _ ih =>
    obtain ⟨hws, hwss⟩ := List.forall_mem_cons.mp hprogram
    have htrailer : ∀ w ∈ trailerTo ((link bs).find? CommandBuffer.used),
        ¬ decide (Register.InProgram w.offset) = true :=
      fun w hw hin => (of_decide_eq_true hin).2 (inChain_trailerTo _ w hw)
    rw [replayed_link_cons hb.1 hb.2, List.filter_append, List.filter_append, ih hwss,
      List.filter_eq_self.mpr fun w hw => decide_eq_true (hws w hw),
      List.filter_eq_nil_iff.mpr htrailer, List.append_nil, List.flatten_cons]

end Program

/-- **A linked chain is replayed from end to end**, each buffer once and in order, if what it holds
leaves the registers of the chain alone and its pairs can be counted in a word. -/
theorem replayFrom_link (houtside : ∀ ws ∈ wss, ∀ w ∈ ws, ¬ Register.InChain w.offset)
    {first : CommandBuffer} {rest : List CommandBuffer}
    (hlink : link bs = first :: rest)
    (hmemory : ∀ b ∈ first :: rest, e.buffer? b.address = some b.words)
    (hcount : ∀ b ∈ first :: rest, b.entries < 2 ^ 32) (hend : e.read Register.chainEnd = 0)
    (done : Nat) {fuel : Nat} (hfuel : bs.length ≤ fuel) :
    e.replayFrom first.address first.entries done fuel =
      (e.replayAll (replayed (link bs)), some (done + bs.length)) := by
  -- the engine that has replayed the first buffer finds the rest of the chain as it found the whole
  induction h generalizing e first rest done fuel with
  | nil => cases hlink
  | @cons ws b wss bs hb hlaid ih =>
    obtain ⟨hws, hwss⟩ := List.forall_mem_cons.mp houtside
    obtain ⟨-, hcounts⟩ := List.forall_mem_cons.mp hcount
    obtain ⟨fuel, rfl⟩ : ∃ n, fuel = n + 1 := ⟨fuel - 1, by rw [List.length_cons] at hfuel; omega⟩
    rw [replayed_link_cons hb.1 hb.2]
    rw [link_cons_of_used hb.1] at hlink
    obtain ⟨rfl, rfl⟩ := List.cons.inj hlink
    obtain ⟨hfirst, hrest⟩ := List.forall_mem_cons.mp hmemory
    cases hlaid with
    | nil =>
      have hnone : replayed (link []) = [] := rfl
      rw [hnone, List.append_nil]
      exact replayFrom_last hfirst (words_push hb.2 _) done fuel
    | @cons vs c wss cs hc hlaid =>
      obtain ⟨next, hnext, htrailer⟩ := exists_link_eq_cons hc.1 cs
      have hcounted := hnext ▸ hcounts
      have hshort := hcounted next List.mem_cons_self
      have hgoes :
          (e.replayAll (ws ++ linkTo next.address next.entries)).read Register.chainEnd = 0 :=
        (read_chainEnd_replayAll_linkTo e hws next.address next.entries).trans hend
      have hkept : ∀ b ∈ next :: link cs,
          (e.replayAll (ws ++ linkTo next.address next.entries)).buffer? b.address =
            some b.words := by
        simp only [buffer?_replayAll, ← hnext]
        exact hrest
      rw [htrailer] at hfirst ⊢
      rw [replayFrom_next hfirst (words_push hb.2 _) hgoes, Nat.mod_eq_of_lt hshort,
        ih hwss hnext hkept hcounted hgoes (done + 1) (Nat.le_of_succ_le_succ hfuel),
        ← replayAll_append, Nat.add_assoc, Nat.add_comm 1]
      rfl

end Laid

end Engine

end Blitter
