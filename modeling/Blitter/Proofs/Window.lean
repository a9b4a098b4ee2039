import Blitter.CommandBuffer
import Blitter.Proofs.Outcome
import Blitter.Window
import Mathlib.Data.List.Induction

/-!
# What is uploaded to command memory

Buffers and command memory are laid out independently of each other: a pool tells the address of a
buffer from its number, and a window tells the slot from the address. Where both start at one base,
the two agree (`slot_addressOf`), so that every buffer lands in a range of words of its own. After
the used buffers are uploaded, command memory `Holds` them in their places, and nothing else of it
has changed (`holds_uploads`).
-/

namespace Blitter

namespace Window

/-! ### Placing words -/

theorem size_place (commands : Array UInt32) (start : Nat) (words : List UInt32) :
    (place commands start words).size = commands.size := by
  induction words generalizing commands start with
  | nil => rfl
  | cons word words ih => rw [place, ih, Array.size_setIfInBounds]

/-- Words are placed **one after the other from the slot on**, and the others stay. -/
theorem getElem?_place {commands : Array UInt32} {start : Nat} {words : List UInt32}
    (h : start + words.length ≤ commands.size) (j : Nat) :
    (place commands start words)[j]? =
      if start ≤ j ∧ j < start + words.length then words[j - start]? else commands[j]? := by
  induction words generalizing commands start with
  | nil =>
    rw [List.length_nil, if_neg (by omega)]
    rfl
  | cons word words ih =>
    rw [List.length_cons] at h ⊢
    rw [place, ih (by rw [Array.size_setIfInBounds]; omega), Array.getElem?_setIfInBounds]
    rcases Nat.lt_trichotomy j start with hlt | rfl | hgt
    · rw [if_neg (by omega), if_neg (by omega), if_neg (by omega)]
    · rw [if_neg (by omega), if_pos rfl, if_pos (by omega), if_pos (by omega), Nat.sub_self]
      rfl
    · have hnext : j - start = j - (start + 1) + 1 := by omega
      rw [if_neg (Nat.ne_of_lt hgt), hnext, List.getElem?_cons_succ]
      exact if_congr (by omega) rfl rfl

/-- Words for which there is room are all placed. -/
theorem upload_of_room {w : Window} {address : UInt64} {words : List UInt32}
    (h : w.slot address + words.length ≤ w.commands.size) :
    w.upload address words = { w with commands := place w.commands (w.slot address) words } :=
  if_neg (Nat.not_lt.mpr h)

/-! ### Accesses -/

/-- Carries out several accesses, in order. -/
def accessAll (w : Window) (as : List Access) : Window := as.foldl access w

@[simp] theorem accessAll_nil (w : Window) : w.accessAll [] = w := rfl

theorem accessAll_append (w : Window) (as bs : List Access) :
    w.accessAll (as ++ bs) = (w.accessAll as).accessAll bs := List.foldl_append

theorem accessAll_concat (w : Window) (as : List Access) (a : Access) :
    w.accessAll (as ++ [a]) = (w.accessAll as).access a := accessAll_append w as [a]

/-- No access moves command memory or **changes its size**. -/
theorem access_keeps (w : Window) (a : Access) :
    (w.access a).base = w.base ∧ (w.access a).commands.size = w.commands.size := by
  cases a with
  | write r => exact ⟨rfl, rfl⟩
  | upload address words =>
    unfold access upload
    dsimp only
    split
    · exact ⟨rfl, rfl⟩
    · exact ⟨rfl, size_place _ _ _⟩

theorem accessAll_keeps (w : Window) (as : List Access) :
    (w.accessAll as).base = w.base ∧ (w.accessAll as).commands.size = w.commands.size := by
  refine List.foldlRecOn
    (motive := fun (v : Window) => v.base = w.base ∧ v.commands.size = w.commands.size)
    _ _ ⟨rfl, rfl⟩ ?_
  intro v hv a _
  obtain ⟨hbase, hsize⟩ := v.access_keeps a
  exact ⟨hbase.trans hv.1, hsize.trans hv.2⟩

/-- Register writes leave command memory as it is. -/
theorem commands_accessAll_writes (w : Window) (rs : List RegisterWrite) :
    (w.accessAll (rs.map Access.write)).commands = w.commands := by
  refine List.foldlRecOn (motive := fun (v : Window) => v.commands = w.commands) _ _ rfl ?_
  intro v hv a ha
  obtain ⟨r, -, rfl⟩ := List.mem_map.mp ha
  exact hv

/-! ### Slots of buffers -/

/-- The slot that a window tells from an address is **the buffer's place**. -/
theorem slot_addressOf {w : Window} {capacity id : Nat}
    (h : BufferPool.addressOf capacity w.base id < UInt64.size) :
    w.slot (UInt64.ofNat (BufferPool.addressOf capacity w.base id)) = id * capacity := by
  have hnat : (UInt64.ofNat (BufferPool.addressOf capacity w.base id)).toNat =
      w.base.toNat + id * capacity * 4 := UInt64.toNat_ofNat_of_lt' h
  have hle : w.base ≤ UInt64.ofNat (BufferPool.addressOf capacity w.base id) := by
    rw [UInt64.le_iff_toNat_le, hnat]
    exact Nat.le_add_right _ _
  rw [slot, UInt64.toNat_sub_of_le _ _ hle, hnat, Nat.add_sub_cancel_left]
  exact Nat.mul_div_cancel _ (by decide)

/-- The accesses that upload the used ones of some buffers. -/
def uploads (bs : List CommandBuffer) : List Access :=
  (bs.filter CommandBuffer.used).map fun b => .upload b.address b.words

/-- The buffers **fit the slots** of a window: slots of `capacity` words, one for each buffer. -/
structure FitsSlots (w : Window) (capacity : Nat) (bs : List CommandBuffer) : Prop where
  start : ∀ id b, bs[id]? = some b → w.slot b.address = id * capacity
  length : ∀ b ∈ bs, b.used = true → b.words.length ≤ capacity
  room : bs.length * capacity ≤ w.commands.size

/-- The word at `j` lies in the range of **a used buffer**. -/
def InSlot (capacity : Nat) (bs : List CommandBuffer) (j : Nat) : Prop :=
  ∃ id b, bs[id]? = some b ∧ b.used = true ∧ id * capacity ≤ j ∧
    j < id * capacity + b.words.length

/-- Command memory **holds the used buffers** in their slots of `capacity` words, and is otherwise
what it was before. -/
structure Holds (before after : Window) (capacity : Nat) (bs : List CommandBuffer) : Prop where
  size : after.commands.size = before.commands.size
  words : ∀ id b, bs[id]? = some b → b.used = true →
    ∀ n < b.words.length, after.commands[id * capacity + n]? = b.words[n]?
  others : ∀ j, ¬ InSlot capacity bs j → after.commands[j]? = before.commands[j]?

/-- A buffer among some and one more is among the others, or **it is the one**. -/
private theorem getElem?_concat_eq_some_iff {bs : List CommandBuffer} {b c : CommandBuffer}
    {id : Nat} :
    (bs ++ [b])[id]? = some c ↔ bs[id]? = some c ∨ id = bs.length ∧ b = c := by
  rcases Nat.lt_trichotomy id bs.length with hlt | rfl | hgt
  · rw [List.getElem?_append_left hlt]
    exact ⟨.inl, fun h => h.resolve_right fun hlast => Nat.ne_of_lt hlt hlast.1⟩
  · simp
  · have hnone : (bs ++ [b])[id]? = none := by
      rw [List.getElem?_eq_none_iff, List.length_append, List.length_singleton]
      omega
    rw [hnone, List.getElem?_eq_none (Nat.le_of_lt hgt)]
    simp [Nat.ne_of_gt hgt]

section Concat

variable {w : Window} {capacity : Nat} {bs : List CommandBuffer} {b : CommandBuffer}

theorem FitsSlots.of_concat (h : w.FitsSlots capacity (bs ++ [b])) : w.FitsSlots capacity bs := by
  have hroom := h.room
  rw [List.length_append, List.length_singleton, Nat.add_mul, Nat.one_mul] at hroom
  exact
    { start := fun id c hc => h.start id c (getElem?_concat_eq_some_iff.mpr (.inl hc))
      length := fun c hc => h.length c (List.mem_append_left _ hc)
      room := by omega }

/-- The ranges of the buffers **end before the slot** of the next one. -/
theorem FitsSlots.lt_of_inSlot (h : w.FitsSlots capacity bs) {j : Nat}
    (hj : InSlot capacity bs j) : j < bs.length * capacity := by
  obtain ⟨id, c, hc, hused, -, hlt⟩ := hj
  obtain ⟨hid, -⟩ := List.getElem?_eq_some_iff.mp hc
  have hlength := h.length c (List.mem_of_getElem? hc) hused
  have hslots : (id + 1) * capacity ≤ bs.length * capacity := Nat.mul_le_mul_right _ hid
  rw [Nat.add_mul, Nat.one_mul] at hslots
  omega

/-- A buffer that is not used **is not uploaded**. -/
theorem Holds.concat_of_not_used {after : Window} (h : Holds w after capacity bs)
    (hb : b.used = false) : Holds w after capacity (bs ++ [b]) := by
  refine ⟨h.size, ?_, fun j hj => h.others j fun hin => hj ?_⟩
  · intro id c hc hused
    rcases getElem?_concat_eq_some_iff.mp hc with hc | ⟨-, rfl⟩
    · exact h.words id c hc hused
    · rw [hb] at hused
      cases hused
  · obtain ⟨id, c, hc, hin⟩ := hin
    exact ⟨id, c, getElem?_concat_eq_some_iff.mpr (.inl hc), hin⟩

/-- Uploading one more buffer **puts it after the others**. -/
theorem Holds.concat_of_used {after : Window} (h : Holds w after capacity bs)
    (hfits : w.FitsSlots capacity (bs ++ [b])) (hbase : after.base = w.base)
    (hb : b.used = true) :
    Holds w (after.access (.upload b.address b.words)) capacity (bs ++ [b]) := by
  have hlast : (bs ++ [b])[bs.length]? = some b := getElem?_concat_eq_some_iff.mpr (.inr ⟨rfl, rfl⟩)
  have hlength := hfits.length b (List.mem_append_right _ List.mem_cons_self) hb
  have hroom := hfits.room
  rw [List.length_append, List.length_singleton, Nat.add_mul, Nat.one_mul] at hroom
  have hslot : after.slot b.address = bs.length * capacity := by
    rw [← hfits.start _ b hlast, slot, slot, hbase]
  have hsize : bs.length * capacity + b.words.length ≤ after.commands.size := by
    rw [h.size]
    omega
  have hplaced : (after.access (.upload b.address b.words)).commands =
      place after.commands (bs.length * capacity) b.words := by
    rw [← hslot] at hsize ⊢
    exact congrArg commands (upload_of_room hsize)
  constructor
  case size => rw [hplaced, size_place, h.size]
  case words =>
    intro id c hc hused n hn
    rw [hplaced, getElem?_place hsize]
    rcases getElem?_concat_eq_some_iff.mp hc with hc | ⟨rfl, rfl⟩
    · have hbefore := hfits.of_concat.lt_of_inSlot (j := id * capacity + n)
        ⟨id, c, hc, hused, Nat.le_add_right _ _, Nat.add_lt_add_left hn _⟩
      rw [if_neg (by omega)]
      exact h.words id c hc hused n hn
    · rw [if_pos (by omega), Nat.add_sub_cancel_left]
  case others =>
    intro j hj
    rw [hplaced, getElem?_place hsize, if_neg fun hin => hj ⟨_, b, hlast, hb, hin⟩]
    refine h.others j fun hin => hj ?_
    obtain ⟨id, c, hc, hin⟩ := hin
    exact ⟨id, c, getElem?_concat_eq_some_iff.mpr (.inl hc), hin⟩

end Concat

/-- Uploading buffers that fit the slots **puts each in its place**. -/
theorem holds_uploads {w : Window} {capacity : Nat} {bs : List CommandBuffer}
    (h : w.FitsSlots capacity bs) : Holds w (w.accessAll (uploads bs)) capacity bs := by
  induction bs using List.reverseRecOn with
  | nil => exact ⟨rfl, fun _ _ hb => (by cases hb), fun _ _ => rfl⟩
  | append_singleton bs b ih =>
    have hbefore := ih h.of_concat
    cases hb : b.used with
    | false =>
      have huploads : uploads (bs ++ [b]) = uploads bs := by
        rw [uploads, List.filter_append, List.filter_cons_of_neg (by rw [hb]; decide),
          List.filter_nil, List.append_nil, uploads]
      rw [huploads]
      exact hbefore.concat_of_not_used hb
    | true =>
      have huploads : uploads (bs ++ [b]) = uploads bs ++ [.upload b.address b.words] := by
        rw [uploads, List.filter_append, List.filter_cons_of_pos hb, List.filter_nil,
          List.map_append, uploads]
        rfl
      rw [huploads, accessAll_concat]
      exact hbefore.concat_of_used h (w.accessAll_keeps _).1 hb

end Window

end Blitter
