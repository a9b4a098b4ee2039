import Blitter.Failure
import Blitter.Log.Event

/-!
# Command buffers

Instead of being written to the registers one by one, a program can be laid down in command
buffers that the engine replays: pairs of words, an offset and a value. The buffers have a fixed
size and fixed addresses, and each keeps room for a trailer. `BufferPool.chain` ends every used
buffer by a trailer that tells the engine where the next one is, and the last by a mark that the
chain ends.
-/

namespace Blitter

/-- A **command buffer**: its place in memory and the words laid down so far. -/
structure CommandBuffer where
  address : UInt64
  words : List UInt32
  /-- Something was laid down since the buffer was last emptied. -/
  used : Bool
  deriving DecidableEq, Repr

namespace CommandBuffer

/-- The number of pairs. -/
def entries (b : CommandBuffer) : Nat := b.words.length / 2

/-- The words of register writes, in order. -/
def wordsOf (writes : List RegisterWrite) : List UInt32 :=
  writes.flatMap fun w => [w.offset, w.value]

@[simp] theorem wordsOf_append (ws vs : List RegisterWrite) :
    wordsOf (ws ++ vs) = wordsOf ws ++ wordsOf vs := List.flatMap_append

@[simp] theorem length_wordsOf (ws : List RegisterWrite) : (wordsOf ws).length = 2 * ws.length := by
  induction ws with
  | nil => rfl
  | cons w ws ih =>
    have : wordsOf (w :: ws) = w.offset :: w.value :: wordsOf ws := rfl
    rw [this, List.length_cons, List.length_cons, ih, List.length_cons]
    omega

/-- Lays down register writes at the end of the buffer. -/
def push (b : CommandBuffer) (writes : List RegisterWrite) : CommandBuffer :=
  { b with words := b.words ++ wordsOf writes }

/-- The buffer without its words. -/
def emptied (b : CommandBuffer) : CommandBuffer := { b with words := [], used := false }

/-- Words kept free for the trailer: three pairs. -/
def trailerWords : Nat := 6

/-- The trailer that leads on to a buffer of that address and number of pairs. -/
def linkTo (address : UInt64) (entries : Nat) : List RegisterWrite :=
  [ put Register.chainNextLow (lowWord address),
    put Register.chainNextHigh (highWord address),
    put Register.chainNextLength (UInt32.ofNat entries) ]

/-- The trailer that ends a chain. -/
def endMark : List RegisterWrite := [put Register.chainEnd 1]

end CommandBuffer

/-- Where the engine starts to read a chain. -/
structure ChainHead where
  address : UInt64
  /-- Pairs in the first buffer, with its trailer. -/
  entries : Nat
  /-- Buffers in the chain. -/
  buffers : Nat
  deriving DecidableEq, Repr

/-- The **command buffers** of a device, numbered from zero. -/
structure BufferPool where
  buffers : List CommandBuffer
  /-- The size of each buffer in words. -/
  capacity : Nat
  deriving DecidableEq

namespace BufferPool

/-- The most bytes that a block of memory can have. -/
def maxBlock : Nat := 0x7FFFFFFFFFFFFFFF

/-- The address of buffer `id` when buffers of `capacity` words lie back to back from `base`. -/
def addressOf (capacity : Nat) (base : UInt64) (id : Nat) : Nat := base.toNat + id * capacity * 4

/-- The bytes that the pool keeps for each buffer beside its words. -/
def recordSize : Nat := 40

/-- `count` empty buffers of `capacity` words, back to back from `base`. There is no answer if a
buffer, or what the pool keeps for all of them, is too large for any memory, or if the last one
starts beyond the 64-bit addresses. -/
def create (count capacity : Nat) (base : UInt64) : Outcome BufferPool :=
  if count = 0 then .ok ⟨[], capacity⟩
  else if maxBlock < count * recordSize ∨ maxBlock < capacity * 4 then .error .overflow
  else do
    let _ ← fit64 (addressOf capacity base (count - 1))
    let buffer (id : Nat) : CommandBuffer :=
      { address := UInt64.ofNat (addressOf capacity base id), words := [], used := false }
    return { buffers := (List.range count).map buffer, capacity }

/-- The number of buffers. -/
def count (p : BufferPool) : Nat := p.buffers.length

/-- Buffer `id`. -/
def get (p : BufferPool) (id : Nat) : Outcome CommandBuffer :=
  match p.buffers[id]? with
  | some b => .ok b
  | none => reject (.bufferIndex id p.count)

/-- Words used in buffer `id`. -/
def length (p : BufferPool) (id : Nat) : Outcome Nat := (p.get id).map fun b => b.words.length

/-- Words free in buffer `id`, less those kept for the trailer. -/
def remaining (p : BufferPool) (id : Nat) : Outcome Nat :=
  (p.get id).map fun b => p.capacity - (CommandBuffer.trailerWords + b.words.length)

/-- Something was laid down in buffer `id`. -/
def isUsed (p : BufferPool) (id : Nat) : Outcome Bool := (p.get id).map CommandBuffer.used

/-- **Lays down** all of the writes in buffer `id`, or none of them if they do not fit. -/
def append (p : BufferPool) (id : Nat) (writes : List RegisterWrite) : Outcome BufferPool := do
  let remaining ← p.remaining id
  let needed := writes.length * 2
  if remaining < needed then reject (.bufferFull id needed remaining)
  else return { p with
    buffers := p.buffers.modify id fun b =>
      { b.push writes with used := b.used || !writes.isEmpty } }

/-- What the refusal of an append is reported as. -/
def appendEvents : Rejection → List Event
  | .bufferFull id needed remaining =>
    [{ level := .error, part := "g2d::cmdbuf"
       message := "cmdbuf " ++ toString id ++ ": need " ++ toString needed ++ " words, " ++
        toString remaining ++ " remaining" }]
  | _ => []

/-- The used buffers, in order. -/
def usedBuffers (p : BufferPool) : List CommandBuffer := p.buffers.filter CommandBuffer.used

/-- The buffers with trailers on those that are used. Each trailer leads on to the next used
buffer, with the number of pairs that this has after its own trailer. -/
def link : List CommandBuffer → List CommandBuffer
  | [] => []
  | b :: bs =>
    let rest := link bs
    if b.used then
      let trailer :=
        match rest.find? CommandBuffer.used with
        | some next => CommandBuffer.linkTo next.address next.entries
        | none => CommandBuffer.endMark
      b.push trailer :: rest
    else b :: rest

/-- The buffers **linked to a chain**, and where the chain starts; nothing if no buffer is used. -/
def chain (p : BufferPool) : Option (BufferPool × ChainHead) :=
  let linked : BufferPool := { p with buffers := link p.buffers }
  match linked.usedBuffers with
  | [] => none
  | first :: rest =>
    some (linked, ⟨first.address, first.entries, rest.length + 1⟩)

/-- What the linking of a chain is reported as. -/
def chainEvent (head : ChainHead) : Event :=
  { level := .debug, part := "g2d::cmdbuf"
    message := "cmd chain: " ++ toString head.buffers ++ " buffers, head 0x" ++
      Text.hex .upper 1 head.address.toNat ++ " (" ++ toString head.entries ++ " entries)" }

/-- The pool with every buffer empty. -/
def emptied (p : BufferPool) : BufferPool :=
  { p with buffers := p.buffers.map CommandBuffer.emptied }

end BufferPool

end Blitter
