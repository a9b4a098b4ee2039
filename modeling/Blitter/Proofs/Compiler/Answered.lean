import Blitter.Proofs.Compiler.Slices

/-!
# Requests that are answered

Compiling fails in two ways: the request is turned down, or a number does not fit its word, which
leaves the request **without an answer**. The second happens where a plane's address is moved on
beyond its word, to a strip or to a rectangle that is filled, and nowhere else. What is worked out
before and after that is answered (`Outcome.Answered`), whatever the request holds.
-/

namespace Blitter

namespace Outcome

variable {α β : Type}

/-- The computation is **answered**: it has a result or is turned down. -/
def Answered (x : Outcome α) : Prop := x ≠ .error .overflow

theorem answered_ok (a : α) : Answered (.ok a) := nofun

theorem answered_reject (why : Rejection) : Answered (reject why : Outcome α) := nofun

section

variable {x y : Outcome α}

theorem Answered.bind {f : α → Outcome β} (hx : x.Answered)
    (hf : ∀ a, x = .ok a → (f a).Answered) : (x >>= f).Answered := by
  intro h
  rcases bind_eq_error_iff.mp h with h | ⟨a, ha, h⟩
  · exact hx h
  · exact hf a ha h

theorem Answered.ite {c : Prop} [Decidable c] (hx : x.Answered) (hy : y.Answered) :
    (if c then x else y).Answered := by
  split
  · exact hx
  · exact hy

/-- A check that turns something down is **answered if what comes after it is**. -/
theorem Answered.check {c : Prop} [Decidable c] {why : Rejection} (h : x.Answered) :
    (if c then reject why else x).Answered :=
  (answered_reject why).ite h

end

/-- Checks of a list are answered if each of them is. -/
theorem answered_forM {f : α → Outcome Unit} (h : ∀ a, (f a).Answered) (as : List α) :
    (as.forM f).Answered := by
  induction as with
  | nil => exact answered_ok ()
  | cons a as ih => exact (h a).bind fun _ _ => ih

theorem answered_foldlM {f : β → α → Outcome β} (h : ∀ b a, (f b a).Answered) (as : List α)
    (b : β) : (as.foldlM f b).Answered := by
  induction as generalizing b with
  | nil => exact answered_ok b
  | cons a as ih => exact (h b a).bind fun b' _ => ih b'

end Outcome

open Outcome

/-! ### Looking up layers and outputs -/

theorem Target.answered_ofOutput (output : Output) : (Target.ofOutput output).Answered := by
  refine Answered.check (Answered.bind ?_ fun _ _ => answered_ok _)
  unfold FormatCode.writeLayout
  split
  · exact (answered_ok _).ite (answered_reject _)
  · exact answered_reject _

theorem FormatCode.answered_readLayout (code : FormatCode) : code.readLayout.Answered := by
  unfold FormatCode.readLayout
  split
  · exact answered_ok _
  · exact answered_reject _

theorem TileFetch.answered_resolve (format : FormatCode) (arrangement : Arrangement) (src : Rect) :
    (TileFetch.resolve format arrangement src).Answered := by
  refine Answered.check ((answered_ok _).ite ?_)
  refine (FormatCode.answered_readLayout format).bind fun layout _ => ?_
  split
  · exact answered_ok _
  · exact answered_reject _

theorem Source.answered_ofLayer (layer : Layer) : (Source.ofLayer layer).Answered :=
  (FormatCode.answered_readLayout _).bind fun _ _ =>
    (TileFetch.answered_resolve _ _ _).bind fun _ _ => answered_ok _

/-- Sizes that fit a surface have limits that **fit a word**. -/
theorem Scaler.answered_check {src dst : UInt32} (hsrc : src.toNat ≤ 8192)
    (hdst : dst.toNat ≤ 8192) : (Scaler.check src dst).Answered := by
  have hfit {n k : Nat} (hn : n ≤ 8192) (hk : k ≤ 16) : (fit32 (n * k)).Answered := by
    have hle : n * k ≤ 8192 * 16 := Nat.mul_le_mul hn hk
    obtain ⟨w, hw⟩ := exists_fit32 (n := n * k) (by omega)
    exact hw ▸ answered_ok w
  refine Answered.check ((hfit hdst (by decide)).bind fun _ _ => ?_)
  refine Answered.check ((hfit hsrc (by decide)).bind fun _ _ => ?_)
  exact Answered.check (answered_ok _)

theorem Pipe.answered_require (p : Pipe) (what : Capability) (needed : Bool) :
    (p.require what needed).Answered :=
  Answered.check (answered_ok _)

theorem Pipe.answered_check (p : Pipe) {s : Source} (hsrc : s.layer.src.Sized)
    (hdst : s.layer.dst.Sized) : (p.check s).Answered := by
  obtain ⟨hw, hh⟩ := Layer.toNat_turnedSize_le hsrc
  refine (p.answered_require _ _).bind fun _ _ => ?_
  refine (p.answered_require _ _).bind fun _ _ => ?_
  refine (p.answered_require _ _).bind fun _ _ => Answered.ite ?_ (answered_ok _)
  refine (p.answered_require _ _).bind fun _ _ => ?_
  exact (Scaler.answered_check hw hdst.w_le).bind fun _ _ => Scaler.answered_check hh hdst.h_le

namespace Compiler

variable {c : Compiler} {width height : UInt32}

theorem answered_checkRect (pipe : Nat) (role : RectRole) (r : Rect) :
    (checkRect pipe role r).Answered :=
  Answered.check (answered_ok _)

theorem answered_checkRects (width height : UInt32) (l : Layer) :
    (checkRects width height l).Answered := by
  refine (answered_checkRect _ _ _).bind fun _ _ => (answered_checkRect _ _ _).bind fun _ _ => ?_
  exact Answered.check (Answered.check (answered_ok _))

theorem answered_resolveLayer (before : List Layer) (l : Layer) :
    (c.resolveLayer width height before l).Answered := by
  unfold resolveLayer
  dsimp only
  cases c.pipes[l.pipe.toNat]? with
  | none => exact answered_reject _
  | some pipe =>
    refine Answered.check (Answered.check ?_)
    refine (answered_checkRects width height l).bind fun _ hrects => ?_
    refine (Source.answered_ofLayer l).bind fun source hsource => ?_
    obtain ⟨rfl, -, -⟩ := Source.ofLayer_eq_ok_iff.mp hsource
    obtain ⟨hsrc, hdst⟩ := sized_of_checkRects hrects
    exact (pipe.answered_check hsrc hdst).bind fun _ _ => answered_ok _

theorem answered_resolveAfter (before layers : List Layer) :
    (c.resolveAfter width height before layers).Answered := by
  induction layers generalizing before with
  | nil => exact answered_ok []
  | cons l layers ih =>
    exact (answered_resolveLayer before l).bind fun _ _ => (ih _).bind fun _ _ => answered_ok _

end Compiler

theorem answered_needsStrips (sources : List Source) (target : Target) (limits : StripLimits) :
    (needsStrips sources target limits).Answered := by
  refine Answered.check (Answered.bind ?_ fun _ _ => answered_ok _)
  exact answered_forM (fun _ => Answered.check (Answered.check (answered_ok _))) sources

/-! ### Frames -/

theorem answered_allocate (weights : List UInt8) (pools : Pools) (forCopy : Bool) :
    (allocate weights pools forCopy).Answered :=
  Answered.check (answered_ok _)

theorem Wiring.answered_ofLayers (layers : List Layer) (background : Option UInt32)
    (porterDuff : Option PorterDuff) (width height : UInt32) :
    (Wiring.ofLayers layers background porterDuff width height).Answered := by
  have hadd (w : Wiring) (l : Layer) : (w.add l).Answered := by
    unfold Wiring.add
    split
    · split
      · exact answered_ok _
      · exact answered_reject _
    · exact answered_reject _
  refine (answered_foldlM hadd _ _).bind fun wired _ => ?_
  cases porterDuff with
  | none => exact answered_ok _
  | some pd => exact Answered.check (Answered.check (answered_ok _))

namespace Compiler

variable {c : Compiler} {r : Request}

theorem answered_composeFrame (commandId : UInt32) (isStrip : Bool) (sources : List Source)
    (target : Target) (background : Option UInt32) (porterDuff : Option PorterDuff)
    (reserved : Bool) :
    (c.composeFrame commandId isStrip sources target background porterDuff reserved).Answered :=
  (answered_allocate _ _ _).bind fun _ _ => (answered_allocate _ _ _).bind fun _ _ =>
    (Wiring.answered_ofLayers _ _ _ _ _).bind fun _ _ => answered_ok _

/-! ### Programs -/

/-- A composition, step by step: the pass of a strip is put together before the next strip. -/
theorem compose_eq_bind (c : Compiler) (r : Request) : c.compose r = do
    let target ← Target.ofOutput r.output
    let sources ← c.resolveLayers r
    let strips ← needsStrips sources target c.limits
    if strips then
      let jobs ← plan sources target c.limits
      let passes ← jobs.mapM fun job => Frame.pass <$> c.stripFrame r target job
      return { operation := .compose, inStrips := true, passes }
    else
      let frame ← c.composeFrame 0 false sources target r.background r.porterDuff (c.reserves r)
      return { operation := .compose, inStrips := false, passes := [frame.pass] } := by
  simp only [compose, split, bind_assoc]
  refine bind_congr fun target => bind_congr fun sources => bind_congr fun strips => ?_
  cases strips with
  | false => rfl
  | true =>
    simp only [if_true, bind_assoc, pure_bind, Split.program, List.mapM_map, Function.id_comp,
      mapM_map_eq, bind_map_left]

/-- **A composition is left without an answer only where it is cut**, at a strip that is beyond the
last address of the output or of a layer. -/
theorem exists_overruns_of_compose (h : c.compose r = .error .overflow) :
    ∃ target sources, Target.ofOutput r.output = .ok target ∧ c.resolveLayers r = .ok sources ∧
      needsStrips sources target c.limits = .ok true ∧
      ∃ s ∈ stripsOf target.output.width c.limits.width,
        target.Overruns s ∨ ∃ source ∈ sources, source.Overruns s := by
  have hcompose := h
  rw [compose_eq_bind] at h
  rcases bind_eq_error_iff.mp h with h | ⟨target, ht, h⟩
  · exact absurd h (Target.answered_ofOutput _)
  rcases bind_eq_error_iff.mp h with h | ⟨sources, hs, h⟩
  · exact absurd h (answered_resolveAfter _ _)
  rcases bind_eq_error_iff.mp h with h | ⟨strips, hn, h⟩
  · exact absurd h (answered_needsStrips _ _ _)
  cases strips with
  | false =>
    exact absurd h ((answered_composeFrame _ _ _ _ _ _ _).bind fun _ _ => answered_ok _)
  | true =>
    refine ⟨target, sources, ht, hs, hn, ?_⟩
    rcases compose_eq_error ht hs hn hcompose with
      ⟨s, hstrip, ⟨-, ⟨⟩⟩ | ⟨hover, -⟩⟩ | ⟨_, -, -, ⟨⟩⟩
    exact ⟨s, hstrip, hover⟩

theorem exists_overruns_of_fillTarget {fill : Fill} {output : Output}
    (h : fillTarget fill output = .error .overflow) :
    ∃ whole, Target.ofOutput output = .ok whole ∧ ∃ p ∈ whole.layout.planes,
      2 ^ 64 ≤ (output.address.get p).toNat + pixelOffset whole fill.rect.x fill.rect.y p := by
  rcases bind_eq_error_iff.mp h with h | ⟨whole, hwhole, h⟩
  · exact absurd h (Target.answered_ofOutput _)
  rcases ite_reject_eq_error_iff.mp h with ⟨-, ⟨⟩⟩ | ⟨-, h⟩
  rcases ite_reject_eq_error_iff.mp h with ⟨-, ⟨⟩⟩ | ⟨-, h⟩
  rcases bind_eq_error_iff.mp h with h | ⟨_, -, ⟨⟩⟩
  obtain ⟨-, hoverruns⟩ := (moveAddresses_eq_error_iff whole.layout.nodup_planes).mp h
  exact ⟨whole, hwhole, hoverruns⟩

/-- **A fill is left without an answer only where its rectangle is**, in some plane, beyond the last
address. -/
theorem exists_overruns_of_fill {fill : Fill} {output : Output}
    (h : c.fill fill output = .error .overflow) :
    ∃ whole, Target.ofOutput output = .ok whole ∧ ∃ p ∈ whole.layout.planes,
      2 ^ 64 ≤ (output.address.get p).toNat + pixelOffset whole fill.rect.x fill.rect.y p := by
  rcases bind_eq_error_iff.mp h with h | ⟨_, -, ⟨⟩⟩
  rcases bind_eq_error_iff.mp h with h | ⟨target, -, h⟩
  · exact exists_overruns_of_fillTarget h
  · refine absurd h (Answered.bind (answered_allocate _ _ _) fun _ _ => ?_)
    refine (answered_allocate _ _ _).bind fun _ _ => ?_
    exact (Wiring.answered_ofLayers _ _ _ _ _).bind fun _ _ => answered_ok _

/- There are such fills: here the second row of the output would be just beyond the last address. -/
example : (ofGeneration .normal).fill { rect := ⟨0, 1, 64, 63⟩, color := 0 }
    { format := .ofLetters 'A' 'R' '2' '4', width := 64, height := 64
      address := forPlanes 0xFFFFFFFFFFFFFF00 0 0, stride := forPlanes 256 0 0 } =
    .error .overflow := by
  decide

/-- **A copy is answered.** -/
theorem answered_copy (k : Copy) : (c.copy k).Answered := by
  have hcheck : (checkCopy k).Answered :=
    Answered.check (Answered.check (Answered.check (answered_ok _)))
  refine hcheck.bind fun _ _ => (answered_allocate _ _ _).bind fun _ _ => ?_
  exact (answered_allocate _ _ _).bind fun _ _ => answered_ok _

end Compiler

end Blitter
