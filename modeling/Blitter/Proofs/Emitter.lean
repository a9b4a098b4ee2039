import Blitter.Proofs.CommandBuffer
import Blitter.Proofs.Window

/-!
# Turns of an emitter

Programs can be loaded, dropped and launched in any order, with passes written to the registers in
between, and a load that fails half way leaves what it has laid down. Room for a trailer is kept
when something is laid down and taken up when the buffers are linked. `Packed` is what stays true in
between: the buffers lie where they were created, and each used one has its trailer's room to spare.
So whatever was done before, a launch uploads buffers that fit their slots, and they land intact
(`intact_of_create`).
-/

namespace Blitter

namespace BufferPool

open CommandBuffer

/-! ### Buffers with room for a trailer -/

/-- The buffers lie **back to back from the base**, as many as were created, and the used ones have
room for a trailer. -/
structure Packed (p : BufferPool) (count capacity : Nat) (base : UInt64) : Prop where
  size : p.capacity = capacity
  addresses : p.buffers.map address =
    (List.range count).map fun id => UInt64.ofNat (addressOf capacity base id)
  bounded : ∀ id < count, addressOf capacity base id < UInt64.size
  spare : ∀ b ∈ p.buffers, b.used = true → b.words.length + trailerWords ≤ capacity

/-- Buffers before the last one start before it. -/
theorem addressOf_mono {capacity : Nat} {base : UInt64} {i j : Nat} (h : i ≤ j) :
    addressOf capacity base i ≤ addressOf capacity base j :=
  Nat.add_le_add_left (Nat.mul_le_mul_right 4 (Nat.mul_le_mul_right capacity h)) _

theorem packed_of_create {p : BufferPool} {count capacity : Nat} {base : UInt64}
    (h : create count capacity base = .ok p) : p.Packed count capacity base := by
  unfold create at h
  split at h
  case isTrue hcount =>
    cases h
    subst hcount
    exact ⟨rfl, rfl, fun _ hid => absurd hid (Nat.not_lt_zero _), fun _ hb => nomatch hb⟩
  case isFalse =>
    split at h
    · cases h
    · obtain ⟨_, hfit, h⟩ := Outcome.bind_eq_ok_iff.mp h
      cases h
      have hlast : addressOf capacity base (count - 1) < UInt64.size := by
        rw [← fit64_eq_ok_iff.mp hfit]
        exact UInt64.toNat_lt_size _
      refine ⟨rfl, List.map_map, fun id hid => ?_, fun b hb hused => ?_⟩
      · exact Nat.lt_of_le_of_lt (addressOf_mono (Nat.le_sub_one_of_lt hid)) hlast
      · obtain ⟨id, -, rfl⟩ := List.mem_map.mp hb
        cases hused

namespace Packed

variable {p p' : BufferPool} {count capacity : Nat} {base : UInt64}
  (h : p.Packed count capacity base)
include h

theorem length_eq : p.buffers.length = count := by
  have hlength := congrArg List.length h.addresses
  rwa [List.length_map, List.length_map, List.length_range] at hlength

theorem address_eq {id : Nat} {b : CommandBuffer} (hb : p.buffers[id]? = some b) :
    b.address = UInt64.ofNat (addressOf capacity base id) := by
  have hmap := congrArg (fun as => as[id]?) h.addresses
  obtain ⟨hid, -⟩ := List.getElem?_eq_some_iff.mp hb
  rw [h.length_eq] at hid
  simp only [List.getElem?_map, hb, Option.map_some, List.getElem?_range hid] at hmap
  exact Option.some.inj hmap

/-- The buffers' ranges of addresses **do not meet**. -/
theorem pairwise_address :
    (p.buffers.map address).Pairwise fun a a' => a.toNat + capacity * 4 ≤ a'.toNat := by
  rw [h.addresses, List.pairwise_map]
  refine (List.pairwise_lt_range (n := count)).imp_of_mem fun {i j} hi hj hij => ?_
  have hi := h.bounded i (List.mem_range.mp hi)
  have hj := h.bounded j (List.mem_range.mp hj)
  rw [UInt64.toNat_ofNat_of_lt' hi, UInt64.toNat_ofNat_of_lt' hj]
  have hnext : addressOf capacity base i + capacity * 4 = addressOf capacity base (i + 1) := by
    rw [addressOf, addressOf, Nat.add_mul i, Nat.one_mul, Nat.add_mul, Nat.add_assoc]
  rw [hnext]
  exact addressOf_mono hij

/-- What is laid down leaves **room for the trailer**. -/
theorem append {id : Nat} {writes : List RegisterWrite} (happend : p.append id writes = .ok p') :
    p'.Packed count capacity base := by
  obtain ⟨b, hb, hfits, rfl⟩ := append_eq_ok_iff.mp happend
  have haddress := map_modify_of_forall (g := address) (f := fun b =>
    { b.push writes with used := b.used || !writes.isEmpty }) (fun _ => rfl) p.buffers id
  refine ⟨h.size, haddress.trans h.addresses, h.bounded, ?_⟩
  intro c hc hused
  obtain ⟨i, hi⟩ := List.mem_iff_getElem?.mp hc
  rw [List.getElem?_modify] at hi
  obtain ⟨d, hd, rfl⟩ := Option.map_eq_some_iff.mp hi
  split at hused
  case isFalse hne =>
    rw [if_neg hne]
    exact h.spare d (List.mem_of_getElem? hd) hused
  case isTrue heq =>
    obtain rfl := heq
    rw [hb] at hd
    cases hd
    rw [if_pos rfl]
    show (b.words ++ wordsOf writes).length + trailerWords ≤ capacity
    rw [List.length_append, length_wordsOf]
    rw [h.size] at hfits
    cases writes with
    | nil =>
      -- nothing is laid down, so that the buffer was in use before
      have hbefore : b.used = true := by
        rw [← Bool.or_false b.used]
        exact hused
      exact h.spare b (List.mem_of_getElem? hb) hbefore
    | cons w ws =>
      rw [List.length_cons] at hfits ⊢
      omega

theorem loadFrom (id : Nat) (passes : List Pass) :
    (p.loadFrom id passes).1.Packed count capacity base := by
  induction passes generalizing p id with
  | nil => exact h
  | cons pass passes ih =>
    rw [BufferPool.loadFrom]
    split
    case h_1 q hq => exact ih (h.append hq) (id + 1)
    case h_2 => exact h

/-- Loading keeps the room for the trailers, **whatever comes of it**. -/
theorem load (passes : List Pass) : (p.load passes).1.Packed count capacity base := by
  unfold BufferPool.load
  split
  · exact h
  · exact h.loadFrom 0 passes

theorem emptied : p.emptied.Packed count capacity base := by
  refine ⟨h.size, ?_, h.bounded, ?_⟩
  · rw [← h.addresses]
    exact List.map_map
  · intro b hb hused
    obtain ⟨c, -, rfl⟩ := List.mem_map.mp hb
    cases hused

end Packed

theorem isBlank_of_mem_emptied {p : BufferPool} {b : CommandBuffer} (hb : b ∈ p.emptied.buffers) :
    b.IsBlank := by
  obtain ⟨c, -, rfl⟩ := List.mem_map.mp hb
  exact ⟨rfl, rfl⟩

/-! ### Buffers that are linked -/

theorem length_trailerTo_le (next : Option CommandBuffer) : (trailerTo next).length ≤ 3 := by
  cases next with
  | none => decide
  | some next => exact Nat.le_refl 3

/-- The buffer is **another one with a trailer** behind its words, if it is in use. -/
structure LinkedFrom (c b : CommandBuffer) : Prop where
  address : b.address = c.address
  used : b.used = c.used
  words : ∃ trailer, trailer.length ≤ 3 ∧ b.words = c.words ++ wordsOf trailer

/-- Linking puts **a trailer at the end of each used buffer**, and leaves the others as they are. -/
theorem forall₂_link (bs : List CommandBuffer) : List.Forall₂ LinkedFrom bs (link bs) := by
  induction bs with
  | nil => exact .nil
  | cons c bs ih =>
    cases hc : c.used with
    | false =>
      rw [link_cons_of_not_used hc]
      exact .cons ⟨rfl, rfl, [], Nat.zero_le _, (List.append_nil _).symm⟩ ih
    | true =>
      rw [link_cons_of_used hc]
      exact .cons ⟨rfl, rfl, _, length_trailerTo_le _, rfl⟩ ih

theorem exists_linkedFrom {bs : List CommandBuffer} {id : Nat} {b : CommandBuffer}
    (hb : (link bs)[id]? = some b) : ∃ c, bs[id]? = some c ∧ LinkedFrom c b := by
  obtain ⟨hid, rfl⟩ := List.getElem?_eq_some_iff.mp hb
  have hid' : id < bs.length := length_link bs ▸ hid
  exact ⟨bs[id], List.getElem?_eq_getElem hid', (forall₂_link bs).get hid' hid⟩

section Linked

variable {p : BufferPool} {count capacity : Nat} {base : UInt64}
  (h : p.Packed count capacity base)
include h

/-- Linked buffers are **no longer than their size**, trailers and all. -/
theorem Packed.length_le_of_mem_link {b : CommandBuffer} (hb : b ∈ link p.buffers)
    (hused : b.used = true) : b.words.length ≤ capacity := by
  obtain ⟨id, hid⟩ := List.mem_iff_getElem?.mp hb
  obtain ⟨c, hc, hlinked⟩ := exists_linkedFrom hid
  obtain ⟨trailer, htrailer, hwords⟩ := hlinked.words
  have hspare := h.spare c (List.mem_of_getElem? hc) (hlinked.used ▸ hused)
  have hroom : trailerWords = 6 := rfl
  rw [hwords, List.length_append, length_wordsOf]
  omega

/-- Linked buffers fit **the slots of command memory** that starts at the same base. -/
theorem Packed.fitsSlots_link {w : Window} (hbase : w.base = base)
    (hroom : count * capacity ≤ w.commands.size) : w.FitsSlots capacity (link p.buffers) := by
  subst hbase
  constructor
  case start =>
    intro id b hb
    obtain ⟨c, hc, hlinked⟩ := exists_linkedFrom hb
    obtain ⟨hid, -⟩ := List.getElem?_eq_some_iff.mp hc
    rw [hlinked.address, h.address_eq hc]
    exact Window.slot_addressOf (h.bounded id (h.length_eq ▸ hid))
  case length => exact fun b hb hused => h.length_le_of_mem_link hb hused
  case room => rwa [length_link, h.length_eq]

end Linked

/-! ### Turns -/

/-- What an emitter is asked to do in **one turn**. -/
inductive Move where
  | load (passes : List Pass)
  | writePass (pass : Pass)
  | startDirect
  | launch
  | drop

/-- What becomes of the buffers in a turn, and what is done to the engine. -/
def Move.step (p : BufferPool) : Move → BufferPool × List Access
  | load passes => ((p.load passes).1, [])
  | writePass pass => (p, pass.accesses)
  | startDirect => (p, [Blitter.startDirect])
  | launch =>
    match p.launch with
    | (p, .ok (_, accesses)) => (p, accesses)
    | (p, .error _) => (p, [])
  | drop => (p.emptied, [])

/-- What becomes of the buffers in several turns, and what is done to the engine in all of them. -/
def moves (p : BufferPool) : List Move → BufferPool × List Access
  | [] => (p, [])
  | m :: ms =>
    let (p, accesses) := m.step p
    let (p, later) := moves p ms
    (p, accesses ++ later)

/-- A launch **leaves every buffer empty**, refused or not. -/
theorem fst_step_launch (p : BufferPool) : (Move.launch.step p).1 = p.emptied := by
  unfold Move.step BufferPool.launch
  cases p.chain <;> rfl

/-- A launch uploads **the linked buffers**, and then writes registers only. -/
theorem snd_step_launch (p : BufferPool) :
    ∃ starts : List RegisterWrite,
      (Move.launch.step p).2 = Window.uploads (link p.buffers) ++ starts.map Access.write := by
  cases hlinked : link p.usedBuffers with
  | nil =>
    have hnone : p.usedBuffers = [] := by
      rw [← List.length_eq_zero_iff, ← length_link, hlinked, List.length_nil]
    have hused : (link p.buffers).filter CommandBuffer.used = [] :=
      (filter_used_link p.buffers).trans hlinked
    refine ⟨[], ?_⟩
    simp only [Move.step, launch_eq_of_usedBuffers_eq_nil hnone, Window.uploads, hused,
      List.map_nil, List.append_nil]
    rfl
  | cons first rest =>
    have hused : (link p.buffers).filter CommandBuffer.used = first :: rest :=
      (filter_used_link p.buffers).trans hlinked
    refine ⟨[ put Register.chainBaseLow (lowWord first.address),
      put Register.chainBaseHigh (highWord first.address),
      put Register.chainLength (UInt32.ofNat first.entries),
      put Register.control (Register.controlChain ||| Register.controlStart) ], ?_⟩
    simp only [Move.step, launch_eq hlinked, Window.uploads, hused]
    rfl

section Moves

variable {p : BufferPool} {count capacity : Nat} {base : UInt64}
  (h : p.Packed count capacity base)
include h

/-- **A turn keeps the buffers packed.** -/
theorem Packed.step (m : Move) : (m.step p).1.Packed count capacity base := by
  cases m with
  | load passes => exact h.load passes
  | writePass pass => exact h
  | startDirect => exact h
  | launch =>
    rw [fst_step_launch]
    exact h.emptied
  | drop => exact h.emptied

/-- **So do several turns**, in any order. -/
theorem Packed.moves (ms : List Move) : (p.moves ms).1.Packed count capacity base := by
  induction ms generalizing p with
  | nil => exact h
  | cons m ms ih => exact ih (h.step m)

/-- Nothing that a launch uploads is **longer than a buffer**. -/
theorem Packed.length_le_of_mem_step {address : UInt64} {words : List UInt32}
    (hmem : Access.upload address words ∈ (Move.launch.step p).2) : words.length ≤ capacity := by
  obtain ⟨starts, hstarts⟩ := snd_step_launch p
  rw [hstarts, List.mem_append] at hmem
  rcases hmem with hmem | hmem
  · obtain ⟨b, hb, heq⟩ := List.mem_map.mp hmem
    cases heq
    obtain ⟨hb, hused⟩ := List.mem_filter.mp hb
    exact h.length_le_of_mem_link hb hused
  · obtain ⟨w, -, ⟨⟩⟩ := List.mem_map.mp hmem

/-- After a launch command memory **holds the linked buffers**. -/
theorem Packed.holds_step {w : Window} (hbase : w.base = base)
    (hroom : count * capacity ≤ w.commands.size) :
    Window.Holds w (w.accessAll (Move.launch.step p).2) capacity (link p.buffers) := by
  obtain ⟨starts, hstarts⟩ := snd_step_launch p
  have hcommands := (w.accessAll (Window.uploads (link p.buffers))).commands_accessAll_writes starts
  obtain ⟨hsize, hwords, hothers⟩ := Window.holds_uploads (h.fitsSlots_link hbase hroom)
  rw [hstarts, Window.accessAll_append]
  constructor
  · rw [hcommands, hsize]
  · rw [hcommands]
    exact hwords
  · rw [hcommands]
    exact hothers

end Moves

/-- What holds of the buffers **at any time**, and of the next launch. -/
structure Intact (p : BufferPool) (capacity : Nat) : Prop where
  /-- The buffers' ranges of addresses do not meet. -/
  apart : (p.buffers.map address).Pairwise fun a a' => a.toNat + capacity * 4 ≤ a'.toNat
  /-- No upload is longer than a buffer. -/
  length : ∀ a words, Access.upload a words ∈ (Move.launch.step p).2 → words.length ≤ capacity
  /-- The buffers that are uploaded have a trailer behind what was laid down in them. -/
  linked : List.Forall₂ LinkedFrom p.buffers (link p.buffers)
  /-- A launch and a drop leave every buffer empty. -/
  emptied : ∀ m : Move, m = .launch ∨ m = .drop → ∀ b ∈ (m.step p).1.buffers, b.IsBlank

/-- **Command buffers stay inside their slots and land intact.** Buffers are created, and then any
turns are taken. The buffers keep apart, a launch uploads no more words than fit, and a launch or a
drop leaves the buffers empty. If the turns act on a window whose command memory starts at the same
base and has room for all buffers, then after a launch it holds the words of each used buffer from
the place of this buffer on, and its other words have not changed. -/
theorem intact_of_create {p : BufferPool} {count capacity : Nat} {base : UInt64}
    (h : create count capacity base = .ok p) (ms : List Move) :
    (p.moves ms).1.count = count ∧ (p.moves ms).1.Intact capacity ∧
      ∀ w : Window, w.base = base → count * capacity ≤ w.commands.size →
        let before := w.accessAll (p.moves ms).2
        Window.Holds before (before.accessAll (Move.launch.step (p.moves ms).1).2) capacity
          (link (p.moves ms).1.buffers) := by
  have hpacked := (packed_of_create h).moves ms
  refine ⟨hpacked.length_eq, ?_, ?_⟩
  · constructor
    case apart => exact hpacked.pairwise_address
    case length => exact fun _ _ hmem => hpacked.length_le_of_mem_step hmem
    case linked => exact forall₂_link _
    case emptied =>
      rintro m (rfl | rfl) b hb
      · rw [fst_step_launch] at hb
        exact isBlank_of_mem_emptied hb
      · exact isBlank_of_mem_emptied hb
  · intro w hbase hroom
    obtain ⟨hbase', hsize⟩ := w.accessAll_keeps (p.moves ms).2
    exact hpacked.holds_step (hbase'.trans hbase) (hsize ▸ hroom)

/-- A pass of one write. -/
def smallPass (value : UInt32) : Pass :=
  { commandId := 0, writes := [put Register.commandId value] }

/-- Two passes, the second of which does not fit buffers of eight words. -/
def crowdedPasses : List Pass :=
  [smallPass 1, { smallPass 2 with writes := (smallPass 2).writes ++ (smallPass 3).writes }]

/-- After a load that failed, and has left its first pass behind, and a launch of what is there, a
program is laid down that makes a chain of two. -/
def crowdedMoves : List Move :=
  [ .load crowdedPasses, .writePass (smallPass 4), .startDirect, .launch,
    .load [smallPass 5, smallPass 6] ]

/-- Buffers of eight words **hold a pass of one write** and the longer trailer. -/
theorem intact_crowdedMoves :
    ∃ p, create 2 8 0x1000 = .ok p ∧ (p.moves crowdedMoves).1.Intact 8 ∧
      let before := (Window.create 16 0x1000).accessAll (p.moves crowdedMoves).2
      Window.Holds before (before.accessAll (Move.launch.step (p.moves crowdedMoves).1).2) 8
        (link (p.moves crowdedMoves).1.buffers) := by
  have hcreate : create 2 8 0x1000 = .ok _ := rfl
  obtain ⟨-, hintact, hholds⟩ := intact_of_create hcreate crowdedMoves
  exact ⟨_, hcreate, hintact, hholds (Window.create 16 0x1000) rfl (by decide)⟩

end BufferPool

end Blitter
