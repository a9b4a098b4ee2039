import Blitter.Proofs.Compiler.Answered
import Blitter.Proofs.InWords.Frame
import Blitter.Proofs.InWords.Pass
import Blitter.Proofs.InWords.Strip

/-!
# Compiling in words

A request may hold any numbers at all, and strips may be set to any width, and still compiling it
one operation on words at a time comes to what compiling it comes to: a program, or the same reason
why there is none (`compose_eq`, `fill_eq`, `copy_eq`). No sum leaves its word, no difference is
below zero, nothing is divided by zero, no entry is missing and no number loses bits in a shorter
word, with one exception. Addresses of planes are moved on by offsets that nothing bounds, and a
request that is left without an answer has an address that leaves its word
(`Compiler.staysInWords`).
-/

namespace Blitter

namespace InWords

variable {c : Compiler}

/-! ### Compositions -/

/-- `Compiler.stripFrame` in words. -/
def stripFrame (c : Compiler) (r : Request) (target : Target) (job : StripJob) :
    InWords Frame := do
  let sources ← job.layers.mapM ofLayer
  let number ← ofIndex job.strip.index
  composeFrame c number true sources { target with output := job.output } r.background
    (Compiler.operatorFor r.porterDuff sources) (c.reserves r || sources.isEmpty)

/-- The pass of a strip. -/
def stripPass (c : Compiler) (r : Request) (target : Target) (job : StripJob) : InWords Pass := do
  let frame ← stripFrame c r target job
  pass frame

/-- `Compiler.compose` in words. -/
def compose (c : Compiler) (r : Request) : InWords Program := do
  let target ← of (Target.ofOutput r.output)
  let sources ← resolveLayers c r
  let strips ← of (needsStrips sources target c.limits)
  if strips then
    let jobs ← plan sources target c.limits
    let passes ← jobs.mapM (stripPass c r target)
    return { operation := .compose, inStrips := true, passes }
  else
    let frame ← composeFrame c 0 false sources target r.background r.porterDuff (c.reserves r)
    let pass ← pass frame
    return { operation := .compose, inStrips := false, passes := [pass] }

section Compose

variable {r : Request} {target : Target}

theorem stripFrame_eq {job : StripJob} (h : job.strip.index < 2 ^ 32) :
    stripFrame c r target job = of (c.stripFrame r target job) := by
  refine bind_eq_of (mapM_eq_of fun l _ => ofLayer_eq l) fun found _ => ?_
  rw [ofIndex_eq h, ok_bind]
  exact composeFrame_eq c _ _ _ _ _ _ _

/-- The pass of a frame that composes is worked out in words: its sources were looked up, and were
found to be small enough. -/
theorem pass_eq_of_composed {f : Frame} (h : c.Composed f) : pass f = .ok f.pass := by
  refine pass_eq h.sound fun s hs => ?_
  have hadmitted := h.admitted s hs
  obtain ⟨-, -, hfetch⟩ := Source.ofLayer_eq_ok_iff.mp hadmitted.found
  have hsrc := hadmitted.fits.src
  exact ⟨TileFetch.boxes_of_resolve hfetch hsrc.w_pos hsrc.h_pos, hsrc⟩

/-- **Any composition is compiled in words**, the sums of addresses aside. -/
theorem compose_eq (c : Compiler) (r : Request) : compose c r = of (c.compose r) := by
  rw [c.compose_eq_bind]
  refine bind_eq_of rfl fun target ht => ?_
  refine bind_eq_of (resolveLayers_eq r) fun sources hs => ?_
  refine bind_eq_of rfl fun strips hn => ?_
  refine ite_eq_of (fun htrue => ?_) fun _ => ?_
  · subst htrue
    have hfits : ∀ source ∈ sources,
        Compiler.RectsFit target.output.width target.output.height source.layer :=
      fun _ hm => Compiler.fits_of_resolveLayers ht hs hm
    refine bind_eq_of (plan_eq hfits) fun jobs hp => ?_
    refine bind_eq_of (mapM_eq_of fun job hj => ?_) fun _ _ => rfl
    have hindex := index_lt_of_mem_stripsOf (job_of_mem_plan hp hj).1
    refine bind_eq_of (stripFrame_eq hindex) fun f hf => ?_
    exact pass_eq_of_composed (Compiler.composed_of_stripFrame ht hs hp hj hn hf).1
  · refine bind_eq_of (composeFrame_eq c _ _ _ _ _ _ _) fun f hf => ?_
    rw [pass_eq_of_composed (Compiler.composed_of_whole ht hs hf).1]
    rfl

end Compose

/-! ### Fills -/

/-- The address of a plane moved on to a pixel: by the rows above it, then by the columns before
it. -/
def moveToPixel (t : Target) (x y : UInt32) (plane : Nat) (old : UInt64) : InWords UInt64 := do
  let lines ← div y (.ofNat (t.layout.planeRows plane))
  let down ← lineBytes t.output.stride lines.toUInt64 plane
  let across ← columnBytes t.layout x plane
  let moved ← advance old down
  advance moved across

/-- `Compiler.fillTarget` in words. -/
def fillTarget (fill : Fill) (output : Output) : InWords Target := do
  let whole ← of (Target.ofOutput output)
  let (width, height) := output.memorySize
  let rect := fill.rect
  if rect.isEmpty || !Rect.contains ⟨0, 0, width, height⟩ rect then
    of (rejectGeometry (.fillOutside rect width height))
  else
    let columns ← columnAlign whole.layout
    let across ← rem rect.x columns
    let down ← rem rect.y (.ofNat whole.layout.rowAlign)
    if across ≠ 0 ∨ down ≠ 0 then
      of (rejectGeometry (.fillSplitsSample rect.x rect.y output.format))
    else
      let address ←
        moveAddresses (moveToPixel whole rect.x rect.y) whole.layout.planeNumbers output.address
      return { whole with
        output := { output with width := rect.w, height := rect.h, rotation := .none, address } }

/-- `Compiler.fillFrame` in words. -/
def fillFrame (c : Compiler) (fill : Fill) (output : Output) : InWords Frame := do
  let target ← fillTarget fill output
  let weights ← readWeights c.generation [] true
  let pools ← readPools c.generation
  let read ← allocate weights pools false
  let write ← writeAllocation c target
  let wiring ← wiring [] (some fill.color) none fill.rect.w fill.rect.h
  return { commandId := 0, operation := .fill, isStrip := false, read, write, pipes := c.pipes,
           sources := [], wiring, target }

/-- `Compiler.fill` in words. -/
def fill (c : Compiler) (fill : Fill) (output : Output) : InWords Program := do
  let frame ← fillFrame c fill output
  let pass ← pass frame
  return { operation := .fill, inStrips := false, passes := [pass] }

section Fill

/-- A sum that leaves its word **stays outside** when more is added. -/
theorem fit64_bind (m n : Nat) : (fit64 m >>= fun w => fit64 (w.toNat + n)) = fit64 (m + n) := by
  by_cases hm : m < 2 ^ 64
  case pos =>
    have hfit : fit64 m = .ok (.ofNat m) := if_pos hm
    rw [hfit, Outcome.ok_bind, UInt64.toNat_ofNat_of_lt' hm]
  case neg =>
    have hover {k : Nat} (hk : 2 ^ 64 ≤ k) : fit64 k = .error .overflow :=
      fit64_eq_error_iff.mpr ⟨rfl, hk⟩
    rw [hover (by omega), hover (by omega)]
    rfl

/-- The rows and the columns are added one after the other: the first sum leaves its word only
where both together do. -/
theorem moveToPixel_eq (t : Target) (x y : UInt32) (p : Fin 3) (old : UInt64) :
    moveToPixel t x y p old = of (fit64 (old.toNat + Compiler.pixelOffset t x y p)) := by
  have hrows := t.layout.planeRows_le p
  have hy := y.toNat_lt
  have hle := Nat.div_le_self y.toNat (t.layout.planeRows p)
  have hlt := Nat.lt_of_le_of_lt hle hy
  have hdiv := div_word y (by omega) (t.layout.planeRows_pos p)
  have hlong : (UInt32.ofNat (y.toNat / t.layout.planeRows p)).toUInt64 =
      .ofNat (y.toNat / t.layout.planeRows p) := UInt32.toUInt64_ofNat' hlt
  obtain ⟨hdown, hdownlt⟩ := lineBytes_eq hlt t.output.stride p
  obtain ⟨hacross, hacrosslt⟩ := columnBytes_eq t.layout x p
  unfold moveToPixel advance
  rw [hdiv, ok_bind, hlong, hdown, ok_bind, hacross, ok_bind, UInt64.toNat_ofNat_of_lt' hdownlt,
    UInt64.toNat_ofNat_of_lt' hacrosslt, Compiler.pixelOffset, ← Nat.add_assoc,
    ← fit64_bind _ (x.toNat * t.layout.planeBits p / 8)]
  exact bind_eq_of rfl fun _ _ => rfl

theorem fillTarget_eq (fill : Fill) (output : Output) :
    fillTarget fill output = of (Compiler.fillTarget fill output) := by
  refine bind_eq_of rfl fun whole _ => ?_
  obtain ⟨width, height⟩ := output.memorySize
  refine ite_eq_of (fun _ => rfl) fun _ => ?_
  have hx := fill.rect.x.toNat_lt
  have hy := fill.rect.y.toNat_lt
  have hcolumn := whole.layout.columnAlign_le
  have hcolumn0 := whole.layout.columnAlign_pos
  have hrow := whole.layout.rowAlign_le
  have hrow0 := whole.layout.rowAlign_pos
  have hacross := rem_word fill.rect.x (by omega) hcolumn0
  have hdown := rem_word fill.rect.y (by omega) hrow0
  have hxmod := Nat.mod_le fill.rect.x.toNat whole.layout.columnAlign
  have hymod := Nat.mod_le fill.rect.y.toNat whole.layout.rowAlign
  rw [columnAlign_eq, ok_bind, hacross, ok_bind, hdown, ok_bind]
  simp only [ne_eq, ofNat_eq_zero_iff (Nat.lt_of_le_of_lt hxmod hx),
    ofNat_eq_zero_iff (Nat.lt_of_le_of_lt hymod hy)]
  refine ite_eq_of (fun _ => rfl) fun _ => ?_
  refine bind_eq_of ?_ fun _ _ => rfl
  rw [whole.layout.planeNumbers_eq]
  exact moveAddresses_eq (fun p _ old => moveToPixel_eq whole _ _ p old) _

theorem fillFrame_eq (c : Compiler) (fill : Fill) (output : Output) :
    fillFrame c fill output = of (c.fillFrame fill output) := by
  refine bind_eq_of (fillTarget_eq fill output) fun target _ => ?_
  rw [readWeights_eq, ok_bind, readPools_eq, ok_bind]
  refine bind_eq_of (allocate_eq (totalWeight_readWeights_lt c [] true) _) fun _ _ => ?_
  refine bind_eq_of (writeAllocation_eq c target) fun _ _ => ?_
  exact bind_eq_of (wiring_eq _ _ _ _ _) fun _ _ => rfl

/-- **Any fill is compiled in words**, the sums of addresses aside. -/
theorem fill_eq (c : Compiler) (fill : Fill) (output : Output) :
    InWords.fill c fill output = of (c.fill fill output) := by
  refine bind_eq_of (fillFrame_eq c fill output) fun f hf => ?_
  have hsources : f.sources = [] := by
    obtain ⟨_, composed, -, hcomposed, rfl⟩ := Compiler.fillFrame_eq_ok_iff.mp hf
    show composed.sources = []
    exact Compiler.sources_of_composeFrame hcomposed
  have hpass : pass f = .ok f.pass := pass_eq (Compiler.sound_of_fillFrame hf) fun s hs => by
    rw [hsources] at hs
    cases hs
  rw [hpass]
  rfl

end Fill

/-! ### Copies -/

/-- The write of a global register: its block starts at zero. -/
def putGlobal (reg : Nat) (value : UInt32) : InWords RegisterWrite :=
  put (add 0 (.ofNat reg)) (.ok value)

/-- `Compiler.copyWrites` in words. -/
def copyWrites (k : Copy) : List (InWords RegisterWrite) :=
  [ putGlobal Register.copySourceLow (lowWord k.src),
    putGlobal Register.copySourceHigh (highWord k.src),
    putGlobal Register.copyTargetLow (lowWord k.dst),
    putGlobal Register.copyTargetHigh (highWord k.dst),
    putGlobal Register.copySize (packSize k.width k.height),
    putGlobal Register.copySourceStride k.srcStride,
    putGlobal Register.copyTargetStride k.dstStride ]

/-- `Compiler.copy` in words. -/
def copy (c : Compiler) (k : Copy) : InWords Program := do
  of (Compiler.checkCopy k)
  let pools ← readPools c.generation
  let read ← allocate (List.replicate c.generation.readChannels 0) pools true
  let write ← allocate (List.replicate c.generation.writeChannels 0) c.generation.writePools true
  let writes ← (headerWrites 0 .copy false ++ readWrites read ++ writeWrites write ++
    copyWrites k).mapM id
  return { operation := .copy, inStrips := false, passes := [{ commandId := 0, writes }] }

section Copy

theorem copyWrites_eq (k : Copy) : copyWrites k = (Compiler.copyWrites k).map .ok := rfl

theorem allocate_idle_eq (channels : Nat) (pools : Pools) :
    allocate (List.replicate channels 0) pools true =
      of (Blitter.allocate (List.replicate channels 0) pools true) := by
  refine allocate_eq ?_ pools
  rw [Allocation.totalWeight_replicate_zero]
  decide

/-- **Any copy is compiled in words.** -/
theorem copy_eq (c : Compiler) (k : Copy) : copy c k = of (c.copy k) := by
  have hreads : c.generation.readChannels < 2 ^ 16 := by cases c.generation <;> decide
  have hwrites : c.generation.writeChannels < 2 ^ 16 := by cases c.generation <;> decide
  refine bind_eq_of rfl fun _ _ => ?_
  rw [readPools_eq, ok_bind]
  refine bind_eq_of (allocate_idle_eq _ _) fun read hread => ?_
  refine bind_eq_of (allocate_idle_eq _ _) fun write hwrite => ?_
  have hread := length_shares_of_allocate hread
  have hwrite := length_shares_of_allocate hwrite
  rw [List.length_replicate] at hread hwrite
  rw [headerWrites_eq, readWrites_eq (by rw [hread c.generation.readChannels_pos]; exact hreads),
    writeWrites_eq (by rw [hwrite c.generation.writeChannels_pos]; exact hwrites), copyWrites_eq]
  simp only [← List.map_append]
  rw [mapM_id_map_ok]
  rfl

end Copy

end InWords

/-! ### Compiling -/

namespace Compiler

open InWords (of)

/-- The compiler **stays in words**, whatever it is asked for. -/
structure StaysInWords (c : Compiler) : Prop where
  /-- No operation is without a result. -/
  defined : (∀ r, InWords.compose c r ≠ .error .undefined) ∧
    (∀ fill output, InWords.fill c fill output ≠ .error .undefined) ∧
    ∀ k, InWords.copy c k ≠ .error .undefined
  /-- What is worked out in words is what is compiled. -/
  compose : ∀ r, InWords.compose c r = of (c.compose r)
  fill : ∀ fill output, InWords.fill c fill output = of (c.fill fill output)
  copy : ∀ k, InWords.copy c k = of (c.copy k)
  /-- So is every field of what is written. -/
  fields : ∀ (f : Field) (word value : UInt32), InWords.encode f value = .ok (f.encode value) ∧
    InWords.insert f word value = .ok (f.insert word value)
  /-- A composition without an answer has, in some strip, an address that leaves its word. -/
  compose_overflow : ∀ r, c.compose r = .error .overflow →
    ∃ target sources, Target.ofOutput r.output = .ok target ∧ c.resolveLayers r = .ok sources ∧
      needsStrips sources target c.limits = .ok true ∧
      ∃ s ∈ stripsOf target.output.width c.limits.width,
        target.Overruns s ∨ ∃ source ∈ sources, source.Overruns s
  /-- So has a fill, where its rectangle starts. -/
  fill_overflow : ∀ fill output, c.fill fill output = .error .overflow →
    ∃ whole, Target.ofOutput output = .ok whole ∧ ∃ p ∈ whole.layout.planes,
      2 ^ 64 ≤ (output.address.get p).toNat + pixelOffset whole fill.rect.x fill.rect.y p
  /-- A copy is answered. -/
  copy_answered : ∀ k, (c.copy k).Answered

/-- **The addresses of planes are all that can leave a word.** Whatever the generation, the limits
and the request, compiling in words has a result for every operation and comes to what compiling
comes to; and where that is no answer, the address of a plane is beyond the last one. -/
theorem staysInWords (c : Compiler) : c.StaysInWords := by
  constructor
  case defined =>
    refine ⟨fun r => ?_, fun fill output => ?_, fun k => ?_⟩
    · rw [InWords.compose_eq]
      exact InWords.of_ne_undefined _
    · rw [InWords.fill_eq]
      exact InWords.of_ne_undefined _
    · rw [InWords.copy_eq]
      exact InWords.of_ne_undefined _
  case compose => exact InWords.compose_eq c
  case fill => exact InWords.fill_eq c
  case copy => exact InWords.copy_eq c
  case fields =>
    exact fun f word value => ⟨InWords.encode_eq f value, InWords.insert_eq f word value⟩
  case compose_overflow => exact fun _ => exists_overruns_of_compose
  case fill_overflow => exact fun _ _ => exists_overruns_of_fill
  case copy_answered => exact answered_copy

end Compiler

end Blitter
