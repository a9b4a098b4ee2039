import Blitter.Emitter
import Blitter.Proofs.Outcome
import Mathlib.Data.List.Nodup

/-!
# Command buffers that hold a program

What `load` and `chain` make of a pool whose buffers are all empty: the used buffers hold the
passes, one each and in order (`Laid`), every one of them followed by a trailer, and those that
were not needed are not in the chain. Trailers and passes leave the buffers where they are, and
emptying the pool brings it back to what it was.
-/

namespace Blitter

namespace CommandBuffer

variable {b c : CommandBuffer} {bs : List CommandBuffer} {wss : List (List RegisterWrite)}

/-- The buffers hold **these runs of writes**, one each and in order. -/
def Laid (wss : List (List RegisterWrite)) (bs : List CommandBuffer) : Prop :=
  List.Forall₂ (fun ws b => b.used = true ∧ b.words = wordsOf ws) wss bs

theorem Laid.used (h : Laid wss bs) : ∀ b ∈ bs, b.used = true := by
  induction h with
  | nil => exact fun _ hb => absurd hb List.not_mem_nil
  | cons hb _ ih => exact List.forall_mem_cons.mpr ⟨hb.1, ih⟩

/-- A buffer with nothing laid down. -/
def IsBlank (b : CommandBuffer) : Prop := b.words = [] ∧ b.used = false

theorem IsBlank.eq_emptied (hb : b.IsBlank) (haddress : c.address = b.address) :
    c.emptied = b := by
  cases b
  obtain ⟨hwords, hused⟩ := hb
  simp only at hwords hused haddress
  rw [emptied, hwords, hused, haddress]

end CommandBuffer

namespace BufferPool

open CommandBuffer

variable {p p' linked : BufferPool} {bs : List CommandBuffer} {b : CommandBuffer}
  {passes : List Pass}

/-! ### Laying down -/

/-- What is in the buffers once the passes are laid down. -/
def laidDown : List CommandBuffer → List Pass → List CommandBuffer
  | b :: bs, pass :: passes =>
    { b.push pass.writes with used := b.used || !pass.writes.isEmpty } :: laidDown bs passes
  | bs, _ => bs

theorem laidDown_nil (bs : List CommandBuffer) : laidDown bs [] = bs := by
  cases bs <;> rfl

theorem map_address_laidDown (bs : List CommandBuffer) (passes : List Pass) :
    (laidDown bs passes).map address = bs.map address := by
  induction bs generalizing passes with
  | nil => cases passes <;> rfl
  | cons b bs ih =>
    cases passes with
    | nil => rfl
    | cons pass passes => exact congrArg (b.address :: ·) (ih passes)

theorem remaining_eq_ok_iff {id n : Nat} :
    p.remaining id = .ok n ↔
      ∃ b, p.buffers[id]? = some b ∧ p.capacity - (trailerWords + b.words.length) = n := by
  unfold remaining BufferPool.get
  cases p.buffers[id]? with
  | none =>
    constructor
    · rintro ⟨⟩
    · rintro ⟨_, ⟨⟩, _⟩
  | some b =>
    constructor
    · rintro ⟨⟩
      exact ⟨b, rfl, rfl⟩
    · rintro ⟨_, ⟨⟩, rfl⟩
      rfl

theorem append_eq_ok_iff {id : Nat} {writes : List RegisterWrite} :
    p.append id writes = .ok p' ↔ ∃ b, p.buffers[id]? = some b ∧
      writes.length * 2 ≤ p.capacity - (trailerWords + b.words.length) ∧
      p' = { p with
        buffers := p.buffers.modify id fun b =>
          { b.push writes with used := b.used || !writes.isEmpty } } := by
  simp only [append, Outcome.bind_eq_ok_iff, remaining_eq_ok_iff, ite_reject_eq_ok_iff, Nat.not_lt]
  constructor
  · rintro ⟨_, ⟨b, hb, rfl⟩, hfits, ⟨⟩⟩
    exact ⟨b, hb, hfits, rfl⟩
  · rintro ⟨b, hb, hfits, rfl⟩
    exact ⟨_, ⟨b, hb, rfl⟩, hfits, rfl⟩

/-- Changing an item changes it at the end of what comes up to it. -/
private theorem take_succ_modify {α : Type} {l : List α} {i : Nat} {f : α → α}
    (h : i < l.length) : (l.modify i f).take (i + 1) = l.take i ++ [f l[i]] := by
  have hlength : (l.take i).length = i := List.length_take_of_le (Nat.le_of_lt h)
  rw [List.modify_eq_take_cons_drop h, List.take_append, hlength, Nat.add_sub_cancel_left,
    List.take_of_length_le (by omega), List.take_succ_cons, List.take_zero]

/-- **What laying down a program does**: from buffer `id` on each buffer takes one pass, and every
pass fits. -/
theorem loadFrom_eq_ok {id : Nat} (h : p.loadFrom id passes = (p', .ok ())) :
    p'.capacity = p.capacity ∧
      p'.buffers = p.buffers.take id ++ laidDown (p.buffers.drop id) passes ∧
      id + passes.length ≤ max id p.buffers.length ∧
      ∀ pass ∈ passes, pass.writes.length * 2 ≤ p.capacity - trailerWords := by
  induction passes generalizing p id with
  | nil =>
    cases h
    refine ⟨rfl, ?_, Nat.le_max_left _ _, fun _ hp => absurd hp List.not_mem_nil⟩
    rw [laidDown_nil, List.take_append_drop]
  | cons pass passes ih =>
    cases hq : p.append id pass.writes with
    | error e =>
      simp only [loadFrom, hq, Prod.mk.injEq] at h
      cases h.2
    | ok q =>
      simp only [loadFrom, hq] at h
      obtain ⟨b, hb, hfits, rfl⟩ := append_eq_ok_iff.mp hq
      obtain ⟨hcapacity, hbuffers, hlength, hall⟩ := ih h
      obtain ⟨hid, rfl⟩ := List.getElem?_eq_some_iff.mp hb
      simp only [List.length_modify] at hlength
      refine ⟨hcapacity, ?_, ?_, List.forall_mem_cons.mpr ⟨?_, hall⟩⟩
      · -- the buffer just filled joins those before it
        rw [hbuffers, take_succ_modify hid, List.drop_modify_of_lt _ _ _ _ (Nat.lt_succ_self id),
          List.drop_eq_getElem_cons hid, laidDown, List.append_assoc]
        rfl
      · rw [List.length_cons]
        omega
      · omega

/-- A change that does not show in an item's image does not show in the list of images. -/
theorem map_modify_of_forall {α β : Type} {f : α → α} {g : α → β}
    (h : ∀ a, g (f a) = g a) (l : List α) (i : Nat) : (l.modify i f).map g = l.map g := by
  induction l generalizing i with
  | nil => rw [List.modify_nil]
  | cons a l ih =>
    cases i with
    | zero => rw [List.modify_zero_cons, List.map_cons, List.map_cons, h]
    | succ i => rw [List.modify_succ_cons, List.map_cons, List.map_cons, ih]

/-- Whatever comes of laying down passes, the buffers **stay where they are**. -/
theorem loadFrom_keeps (p : BufferPool) (id : Nat) (passes : List Pass) :
    (p.loadFrom id passes).1.capacity = p.capacity ∧
      (p.loadFrom id passes).1.buffers.map address = p.buffers.map address := by
  induction passes generalizing p id with
  | nil => exact ⟨rfl, rfl⟩
  | cons pass passes ih =>
    cases hq : p.append id pass.writes with
    | error e =>
      rw [loadFrom, hq]
      exact ⟨rfl, rfl⟩
    | ok q =>
      obtain ⟨hcapacity, haddress⟩ := ih q (id + 1)
      obtain ⟨b, -, -, rfl⟩ := append_eq_ok_iff.mp hq
      rw [loadFrom, hq]
      have hmodify := map_modify_of_forall (g := address) (f := fun b =>
        { b.push pass.writes with used := b.used || !pass.writes.isEmpty }) (fun _ => rfl)
        p.buffers id
      exact ⟨hcapacity, haddress.trans hmodify⟩

/-- Passes for which there are buffers, all of them empty, are turned down only **because one of
them does not fit**. -/
theorem loadFrom_eq_error {id : Nat} {e : Failure} (hempty : ∀ b ∈ p.buffers.drop id, b.words = [])
    (hlength : id + passes.length ≤ p.buffers.length)
    (h : p.loadFrom id passes = (p', .error e)) :
    ∃ i pass, passes[i]? = some pass ∧ p.capacity - trailerWords < pass.writes.length * 2 ∧
      e = .rejected
        (.bufferFull (id + i) (pass.writes.length * 2) (p.capacity - trailerWords)) := by
  induction passes generalizing p id with
  | nil => cases h
  | cons pass passes ih =>
    rw [List.length_cons] at hlength
    have hid : id < p.buffers.length := by omega
    rw [List.drop_eq_getElem_cons hid, List.forall_mem_cons] at hempty
    obtain ⟨hwords, hrest⟩ := hempty
    have hremaining : p.remaining id = .ok (p.capacity - trailerWords) := by
      refine remaining_eq_ok_iff.mpr ⟨_, List.getElem?_eq_getElem hid, ?_⟩
      rw [hwords, List.length_nil, Nat.add_zero]
    by_cases hfits : p.capacity - trailerWords < pass.writes.length * 2
    · have hfull : p.append id pass.writes =
          reject (.bufferFull id (pass.writes.length * 2) (p.capacity - trailerWords)) := by
        rw [append, hremaining, Outcome.ok_bind]
        exact if_pos hfits
      rw [loadFrom, hfull] at h
      cases h
      exact ⟨0, pass, rfl, hfits, rfl⟩
    · cases hq : p.append id pass.writes with
      | error e' =>
        rw [append, hremaining, Outcome.ok_bind] at hq
        rw [if_neg hfits] at hq
        cases hq
      | ok q =>
        simp only [loadFrom, hq] at h
        obtain ⟨b, -, -, rfl⟩ := append_eq_ok_iff.mp hq
        have hlater := List.drop_modify_of_lt (fun b : CommandBuffer =>
          { b.push pass.writes with used := b.used || !pass.writes.isEmpty }) id (id + 1)
            p.buffers (Nat.lt_succ_self id)
        obtain ⟨i, failed, hfailed, hfull, he⟩ := ih (by rw [hlater]; exact hrest)
          (by rw [List.length_modify]; omega) h
        exact ⟨i + 1, failed, hfailed, hfull, by rw [he, Nat.add_assoc, Nat.add_comm 1]⟩

/-- Passes that have **room in empty buffers** are laid down. -/
theorem exists_loadFrom {id : Nat} (hempty : ∀ b ∈ p.buffers.drop id, b.words = [])
    (hlength : id + passes.length ≤ p.buffers.length)
    (hfits : ∀ pass ∈ passes, pass.writes.length * 2 ≤ p.capacity - trailerWords) :
    ∃ p', p.loadFrom id passes = (p', .ok ()) := by
  induction passes generalizing p id with
  | nil => exact ⟨p, rfl⟩
  | cons pass passes ih =>
    obtain ⟨hpass, hpasses⟩ := List.forall_mem_cons.mp hfits
    rw [List.length_cons] at hlength
    have hid : id < p.buffers.length := by omega
    have hdrop := List.drop_eq_getElem_cons hid
    rw [hdrop, List.forall_mem_cons] at hempty
    obtain ⟨hwords, hrest⟩ := hempty
    obtain ⟨q, happend, hq⟩ : ∃ q, p.append id pass.writes = .ok q ∧
        q = { p with
          buffers := p.buffers.modify id fun b =>
            { b.push pass.writes with used := b.used || !pass.writes.isEmpty } } := by
      refine ⟨_, append_eq_ok_iff.mpr ⟨_, List.getElem?_eq_getElem hid, ?_, rfl⟩, rfl⟩
      rwa [hwords, List.length_nil, Nat.add_zero]
    have hlater : ∀ b ∈ q.buffers.drop (id + 1), b.words = [] := by
      rw [hq, List.drop_modify_of_lt _ _ _ _ (Nat.lt_succ_self id)]
      exact hrest
    obtain ⟨p', hp'⟩ := ih hlater (by rw [hq, List.length_modify]; omega)
      (by rw [hq]; exact hpasses)
    refine ⟨p', ?_⟩
    rw [loadFrom, happend]
    exact hp'

/-! ### Linking -/

/-- The trailer of a buffer that has that used buffer after it, if any. -/
def trailerTo : (next : Option CommandBuffer) → List RegisterWrite
  | some next => linkTo next.address next.entries
  | none => endMark

theorem link_cons_of_used (hb : b.used = true) (bs : List CommandBuffer) :
    link (b :: bs) = b.push (trailerTo ((link bs).find? CommandBuffer.used)) :: link bs := by
  simp only [link, hb, if_true]
  cases (link bs).find? CommandBuffer.used <;> rfl

theorem link_cons_of_not_used (hb : b.used = false) (bs : List CommandBuffer) :
    link (b :: bs) = b :: link bs := by
  simp only [link, hb, Bool.false_eq_true, if_false]

theorem map_address_link (bs : List CommandBuffer) :
    (link bs).map address = bs.map address := by
  induction bs with
  | nil => rfl
  | cons b bs ih =>
    cases hb : b.used with
    | false => rw [link_cons_of_not_used hb, List.map_cons, List.map_cons, ih]
    | true =>
      rw [link_cons_of_used hb, List.map_cons, List.map_cons, ih]
      rfl

theorem length_link (bs : List CommandBuffer) : (link bs).length = bs.length := by
  rw [← List.length_map address, map_address_link, List.length_map]

/-- Buffers that are not used **are not in the chain**. -/
theorem filter_used_link (bs : List CommandBuffer) :
    (link bs).filter CommandBuffer.used = link (bs.filter CommandBuffer.used) := by
  induction bs with
  | nil => rfl
  | cons b bs ih =>
    cases hb : b.used with
    | false =>
      rw [link_cons_of_not_used hb, List.filter_cons_of_neg (by rw [hb]; exact Bool.false_ne_true),
        List.filter_cons_of_neg (by rw [hb]; exact Bool.false_ne_true), ih]
    | true =>
      -- the used buffer that comes next is the same with and without the others
      have hnext : (link (bs.filter CommandBuffer.used)).find? CommandBuffer.used =
          (link bs).find? CommandBuffer.used := by
        rw [← ih, ← List.head?_filter, ← List.head?_filter, List.filter_filter]
        simp only [Bool.and_self]
      have hpushed : ∀ ws, (b.push ws).used = true := fun _ => hb
      rw [link_cons_of_used hb, List.filter_cons_of_pos hb, link_cons_of_used hb, hnext,
        List.filter_cons_of_pos (hpushed _), ih]

/-- Where a chain of these buffers starts. -/
def headOf (first : CommandBuffer) (rest : List CommandBuffer) : ChainHead :=
  ⟨first.address, first.entries, rest.length + 1⟩

/-- What is done to the engine to start it on **the chain of the used buffers**. -/
theorem launch_eq {first : CommandBuffer} {rest : List CommandBuffer}
    (h : link p.usedBuffers = first :: rest) :
    p.launch = (p.emptied, .ok (headOf first rest,
      (first :: rest).map (fun b => Access.upload b.address b.words) ++
        [ Access.set Register.chainBaseLow (lowWord first.address),
          .set Register.chainBaseHigh (highWord first.address),
          .set Register.chainLength (UInt32.ofNat first.entries),
          .set Register.control (Register.controlChain ||| Register.controlStart) ])) := by
  have hused : usedBuffers { p with buffers := link p.buffers } = first :: rest :=
    (filter_used_link p.buffers).trans h
  simp only [launch, chain, startAccesses, hused, headOf]

/-- Where no buffer is used there is **no chain to start**. -/
theorem launch_eq_of_usedBuffers_eq_nil (h : p.usedBuffers = []) :
    p.launch = (p.emptied, rejectGeometry .emptyChain) := by
  have hused : usedBuffers { p with buffers := link p.buffers } = [] :=
    (filter_used_link p.buffers).trans (congrArg link h)
  simp only [launch, chain, hused]

/-! ### The pool between two programs -/

/-- Every buffer is empty, and **no two are at one address**. -/
structure Ready (p : BufferPool) : Prop where
  blank : ∀ b ∈ p.buffers, b.IsBlank
  apart : 0 < p.capacity → (p.buffers.map address).Nodup

/-- Buffers that lie back to back within the 64-bit addresses start at different ones. -/
theorem nodup_map_addressOf {count capacity : Nat} {base : UInt64} (hpos : 0 < capacity)
    (hlast : addressOf capacity base (count - 1) < UInt64.size) :
    ((List.range count).map fun id => UInt64.ofNat (addressOf capacity base id)).Nodup := by
  have hlt : ∀ id ∈ List.range count, addressOf capacity base id < UInt64.size := by
    intro id hid
    have hle : id ≤ count - 1 := Nat.le_sub_one_of_lt (List.mem_range.mp hid)
    have hle : id * capacity * 4 ≤ (count - 1) * capacity * 4 :=
      Nat.mul_le_mul_right 4 (Nat.mul_le_mul_right capacity hle)
    exact Nat.lt_of_le_of_lt (Nat.add_le_add_left hle _) hlast
  refine List.nodup_range.map_on fun i hi j hj heq => ?_
  have hsame : addressOf capacity base i = addressOf capacity base j := by
    have hnat := congrArg UInt64.toNat heq
    rwa [UInt64.toNat_ofNat_of_lt' (hlt i hi), UInt64.toNat_ofNat_of_lt' (hlt j hj)] at hnat
  have hproduct : i * capacity = j * capacity := by
    unfold addressOf at hsame
    omega
  exact Nat.eq_of_mul_eq_mul_right hpos hproduct

theorem ready_of_create {count capacity : Nat} {base : UInt64}
    (h : create count capacity base = .ok p) : p.Ready := by
  unfold create at h
  split at h
  case isTrue =>
    cases h
    exact ⟨fun _ hb => absurd hb List.not_mem_nil, fun _ => .nil⟩
  case isFalse hcount =>
    split at h
    · cases h
    · obtain ⟨_, hfit, h⟩ := Outcome.bind_eq_ok_iff.mp h
      cases h
      constructor
      · intro b hb
        obtain ⟨id, -, rfl⟩ := List.mem_map.mp hb
        exact ⟨rfl, rfl⟩
      · intro hpos
        have hlast : addressOf capacity base (count - 1) < UInt64.size := by
          rw [← fit64_eq_ok_iff.mp hfit]
          exact UInt64.toNat_lt_size _
        rw [List.map_map]
        exact nodup_map_addressOf hpos hlast

theorem size_of_create {count capacity : Nat} {base : UInt64}
    (h : create count capacity base = .ok p) : p.count = count ∧ p.capacity = capacity := by
  unfold create at h
  split at h
  case isTrue hcount =>
    cases h
    exact ⟨hcount.symm, rfl⟩
  case isFalse =>
    split at h
    · cases h
    · obtain ⟨_, -, h⟩ := Outcome.bind_eq_ok_iff.mp h
      cases h
      refine ⟨?_, rfl⟩
      rw [BufferPool.count, List.length_map, List.length_range]

/-- Emptying buffers brings them back to blank ones at the same addresses. -/
theorem map_emptied_eq {cs : List CommandBuffer} (hblank : ∀ b ∈ bs, b.IsBlank)
    (haddress : cs.map address = bs.map address) : cs.map CommandBuffer.emptied = bs := by
  induction bs generalizing cs with
  | nil => rw [List.map_eq_nil_iff.mp haddress, List.map_nil]
  | cons b bs ih =>
    obtain ⟨hb, hbs⟩ := List.forall_mem_cons.mp hblank
    obtain ⟨c, cs, rfl, hc, hcs⟩ := List.map_eq_cons_iff.mp haddress
    rw [List.map_cons, hb.eq_emptied hc, ih hbs hcs]

theorem load_eq_ok (h : p.load passes = (p', .ok ())) :
    p'.capacity = p.capacity ∧ p'.buffers = laidDown p.buffers passes ∧
      passes.length ≤ p.buffers.length ∧
      ∀ pass ∈ passes, pass.writes.length * 2 ≤ p.capacity - trailerWords := by
  unfold load at h
  split at h
  · cases h
  · obtain ⟨hcapacity, hbuffers, hlength, hall⟩ := loadFrom_eq_ok h
    rw [List.take_zero, List.drop_zero, List.nil_append] at hbuffers
    rw [Nat.zero_add, Nat.zero_max] at hlength
    exact ⟨hcapacity, hbuffers, hlength, hall⟩

/-- The runs of writes of a program that **come to a buffer**: those of the passes that write
anything. -/
def worked (passes : List Pass) : List (List RegisterWrite) :=
  (passes.map Pass.writes).filter fun ws => !ws.isEmpty

theorem worked_eq_of_ne_nil (hne : ∀ pass ∈ passes, pass.writes ≠ []) :
    worked passes = passes.map Pass.writes := by
  refine List.filter_eq_self.mpr (List.forall_mem_map.mpr fun pass hpass => ?_)
  rw [Bool.not_eq_true', List.isEmpty_eq_false_iff]
  exact hne pass hpass

theorem worked_eq_nil_iff : worked passes = [] ↔ ∀ pass ∈ passes, pass.writes = [] := by
  simp only [worked, List.filter_eq_nil_iff, List.forall_mem_map, Bool.not_eq_true', Bool.not_eq_false,
    List.isEmpty_iff]

/-- Of blank buffers those are used that **hold a pass which writes anything**. -/
theorem laid_filter_used (hblank : ∀ b ∈ bs, b.IsBlank) (hlength : passes.length ≤ bs.length) :
    Laid (worked passes) ((laidDown bs passes).filter CommandBuffer.used) := by
  induction passes generalizing bs with
  | nil =>
    have hnone : ∀ b ∈ bs, ¬ b.used = true := by
      intro b hb
      rw [(hblank b hb).2]
      exact Bool.false_ne_true
    rw [laidDown_nil, List.filter_eq_nil_iff.mpr hnone]
    exact .nil
  | cons pass passes ih =>
    cases bs with
    | nil => cases hlength
    | cons b bs =>
      obtain ⟨hb, hbs⟩ := List.forall_mem_cons.mp hblank
      have hrest := ih hbs (Nat.le_of_succ_le_succ hlength)
      have hused : (b.used || !pass.writes.isEmpty) = !pass.writes.isEmpty := by
        rw [hb.2, Bool.false_or]
      have hwords : b.words ++ wordsOf pass.writes = wordsOf pass.writes := by
        rw [hb.1, List.nil_append]
      have hdown : laidDown (b :: bs) (pass :: passes) =
          { b.push pass.writes with used := b.used || !pass.writes.isEmpty } ::
            laidDown bs passes := rfl
      rw [hdown, worked, List.map_cons]
      cases hempty : pass.writes.isEmpty with
      | true =>
        -- a pass without writes leaves its buffer out of the chain
        rw [List.filter_cons_of_neg (by rw [hempty]; decide),
          List.filter_cons_of_neg (by dsimp only; rw [hb.2, Bool.false_or]; decide)]
        exact hrest
      | false =>
        rw [List.filter_cons_of_pos (by rw [hempty]; rfl),
          List.filter_cons_of_pos (by dsimp only; rw [Bool.not_false, Bool.or_true])]
        exact .cons ⟨by dsimp only; rw [Bool.not_false, Bool.or_true], hwords⟩ hrest

/-- A pool between two programs takes **every program that there is room for**. -/
theorem Ready.exists_load (hp : p.Ready) (hlength : passes.length ≤ p.count)
    (hfits : ∀ pass ∈ passes, pass.writes.length * 2 ≤ p.capacity - trailerWords) :
    ∃ p', p.load passes = (p', .ok ()) := by
  have hempty : ∀ b ∈ p.buffers.drop 0, b.words = [] := fun b hb => (hp.blank b hb).1
  have hload : p.load passes = p.loadFrom 0 passes := if_neg (Nat.not_lt.mpr hlength)
  rw [hload]
  exact exists_loadFrom hempty (by rwa [Nat.zero_add]) hfits

/-- A pool between two programs takes **exactly the programs that there is room for**. -/
theorem Ready.exists_load_iff (hp : p.Ready) :
    (∃ p', p.load passes = (p', .ok ())) ↔ passes.length ≤ p.count ∧
      ∀ pass ∈ passes, pass.writes.length * 2 ≤ p.capacity - trailerWords := by
  constructor
  · rintro ⟨p', hload⟩
    obtain ⟨-, -, hlength, hfits⟩ := load_eq_ok hload
    exact ⟨hlength, hfits⟩
  · rintro ⟨hlength, hfits⟩
    exact hp.exists_load hlength hfits

/-- It turns a program down because it has too many passes, or **because one does not fit**. -/
theorem Ready.load_eq_error (hp : p.Ready) {e : Failure} (h : p.load passes = (p', .error e)) :
    (p.count < passes.length ∧ e = .rejected (.tooManyPasses passes.length p.count)) ∨
      (passes.length ≤ p.count ∧ ∃ i pass, passes[i]? = some pass ∧
        p.capacity - trailerWords < pass.writes.length * 2 ∧
        e = .rejected
          (.bufferFull i (pass.writes.length * 2) (p.capacity - trailerWords))) := by
  by_cases hcount : p.count < passes.length
  · rw [load, if_pos hcount] at h
    cases h
    exact .inl ⟨hcount, rfl⟩
  · rw [load, if_neg hcount] at h
    have hlength := Nat.le_of_not_lt hcount
    have hempty : ∀ b ∈ p.buffers.drop 0, b.words = [] := fun b hb => (hp.blank b hb).1
    obtain ⟨i, pass, hpass, hfull, he⟩ :=
      loadFrom_eq_error hempty (by rwa [Nat.zero_add]) h
    rw [Nat.zero_add] at he
    exact .inr ⟨hlength, i, pass, hpass, hfull, he⟩

/-- Emptying a pool brings it back to what it was, **whatever came of a program**. -/
theorem Ready.emptied_load (hp : p.Ready) (passes : List Pass) :
    (p.load passes).1.emptied = p := by
  have hkeeps : (p.load passes).1.capacity = p.capacity ∧
      (p.load passes).1.buffers.map address = p.buffers.map address := by
    unfold load
    split
    · exact ⟨rfl, rfl⟩
    · exact loadFrom_keeps p 0 passes
  rw [emptied, map_emptied_eq hp.blank hkeeps.2, hkeeps.1]

section Load

variable (hp : p.Ready) (h : p.load passes = (p', .ok ()))
include hp h

/-- The used buffers of a pool that was loaded **hold the passes** that write anything. -/
theorem Ready.laid_of_load : Laid (worked passes) p'.usedBuffers := by
  obtain ⟨-, hbuffers, hlength, -⟩ := load_eq_ok h
  rw [usedBuffers, hbuffers]
  exact laid_filter_used hp.blank hlength

theorem Ready.nodup_of_load : (p'.usedBuffers.map address).Nodup := by
  obtain ⟨-, hbuffers, -, hfits⟩ := load_eq_ok h
  rcases Nat.eq_zero_or_pos p.capacity with hzero | hpos
  · -- where buffers have no room at all, nothing can have been laid down
    have hempty : worked passes = [] := by
      refine worked_eq_nil_iff.mpr fun pass hpass => List.length_eq_zero_iff.mp ?_
      have hfit := hfits pass hpass
      omega
    have hlaid := hp.laid_of_load h
    rw [hempty] at hlaid
    rw [List.forall₂_nil_left_iff.mp hlaid]
    exact .nil
  · have haddress : p'.buffers.map address = p.buffers.map address := by
      rw [hbuffers, map_address_laidDown]
    have hnodup : (p'.buffers.map address).Nodup := haddress ▸ hp.apart hpos
    exact hnodup.sublist ((List.filter_sublist (l := p'.buffers)).map _)

end Load

end BufferPool

end Blitter
