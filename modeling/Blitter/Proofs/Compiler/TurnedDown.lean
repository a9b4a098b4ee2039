import Blitter.Proofs.Compiler.Answered

/-!
# What compiling turns down

A request that does not compile is turned down for what it asks: it **cannot be expressed on the
engine** (`Compiler.kind_of_compose`, `Compiler.kind_of_fill`, `Compiler.kind_of_copy`). Compiling
takes no space that could run out, and it waits for nothing, so that the other two classes of
rejections come from running a program. Each function that has a part in compiling turns down
nothing else (`Outcome.BlamesRequest`), whatever it is given.
-/

namespace Blitter

namespace Outcome

variable {α β : Type}

/-- What the computation turns down **cannot be expressed** on the engine. -/
def BlamesRequest (x : Outcome α) : Prop :=
  ∀ why, x = .error (.rejected why) → why.kind = .invalidConfiguration

theorem blamesRequest_ok (a : α) : BlamesRequest (.ok a) := nofun

theorem blamesRequest_reject {why : Rejection} (h : why.kind = .invalidConfiguration) :
    BlamesRequest (reject why : Outcome α) := by
  intro why' hwhy
  cases hwhy
  exact h

section

variable {x y : Outcome α}

theorem BlamesRequest.bind {f : α → Outcome β} (hx : x.BlamesRequest)
    (hf : ∀ a, (f a).BlamesRequest) : (x >>= f).BlamesRequest := by
  intro why h
  rcases bind_eq_error_iff.mp h with h | ⟨a, -, h⟩
  · exact hx why h
  · exact hf a why h

theorem BlamesRequest.map {f : α → β} (hx : x.BlamesRequest) : (f <$> x).BlamesRequest :=
  fun why h => hx why (map_eq_error_iff.mp h)

theorem BlamesRequest.ite {c : Prop} [Decidable c] (hx : x.BlamesRequest)
    (hy : y.BlamesRequest) : (if c then x else y).BlamesRequest := by
  split
  · exact hx
  · exact hy

/-- A check that turns something down, and **what comes after it**. -/
theorem BlamesRequest.check {c : Prop} [Decidable c] {why : Rejection}
    (hwhy : why.kind = .invalidConfiguration) (hx : x.BlamesRequest) :
    (if c then reject why else x).BlamesRequest :=
  (blamesRequest_reject hwhy).ite hx

end

theorem blamesRequest_fit32 (n : Nat) : (fit32 n).BlamesRequest :=
  (blamesRequest_ok _).ite nofun

theorem blamesRequest_fit64 (n : Nat) : (fit64 n).BlamesRequest :=
  (blamesRequest_ok _).ite nofun

/-- A mapped list turns down what one of its items does. -/
theorem blamesRequest_mapM {f : α → Outcome β} (h : ∀ a, (f a).BlamesRequest) (as : List α) :
    (as.mapM f).BlamesRequest := by
  intro why hwhy
  obtain ⟨a, -, ha⟩ := exists_of_mapM_eq_error hwhy
  exact h a why ha

theorem blamesRequest_foldlM {f : β → α → Outcome β} (h : ∀ b a, (f b a).BlamesRequest)
    (as : List α) (b : β) : (as.foldlM f b).BlamesRequest := by
  induction as generalizing b with
  | nil => exact blamesRequest_ok b
  | cons a as ih => exact (h b a).bind ih

theorem blamesRequest_forM {f : α → Outcome Unit} (h : ∀ a, (f a).BlamesRequest)
    (as : List α) : (as.forM f).BlamesRequest := by
  induction as with
  | nil => exact blamesRequest_ok ()
  | cons a as ih => exact (h a).bind fun _ => ih

end Outcome

open Outcome

/-! ### Looking up layers and outputs -/

theorem FormatCode.blamesRequest_readLayout (code : FormatCode) :
    code.readLayout.BlamesRequest := by
  unfold readLayout
  split
  · exact blamesRequest_ok _
  · exact blamesRequest_reject rfl

theorem FormatCode.blamesRequest_writeLayout (code : FormatCode) :
    code.writeLayout.BlamesRequest := by
  unfold writeLayout
  split
  · exact (blamesRequest_ok _).ite (blamesRequest_reject rfl)
  · exact blamesRequest_reject rfl

theorem Target.blamesRequest_ofOutput (output : Output) :
    (Target.ofOutput output).BlamesRequest :=
  .check rfl ((FormatCode.blamesRequest_writeLayout _).bind fun _ => blamesRequest_ok _)

theorem TileFetch.blamesRequest_resolve (format : FormatCode) (arrangement : Arrangement)
    (src : Rect) : (TileFetch.resolve format arrangement src).BlamesRequest := by
  refine .check rfl ((blamesRequest_ok _).ite ?_)
  refine (FormatCode.blamesRequest_readLayout format).bind fun layout => ?_
  split
  · exact blamesRequest_ok _
  · exact blamesRequest_reject rfl

theorem Source.blamesRequest_ofLayer (layer : Layer) : (Source.ofLayer layer).BlamesRequest :=
  (FormatCode.blamesRequest_readLayout _).bind fun _ =>
    (TileFetch.blamesRequest_resolve _ _ _).bind fun _ => blamesRequest_ok _

theorem Scaler.blamesRequest_check (src dst : UInt32) : (Scaler.check src dst).BlamesRequest := by
  refine .check rfl ((blamesRequest_fit32 _).bind fun _ => ?_)
  refine .check rfl ((blamesRequest_fit32 _).bind fun _ => ?_)
  exact .check rfl (blamesRequest_ok _)

theorem Pipe.blamesRequest_require (p : Pipe) (what : Capability) (needed : Bool) :
    (p.require what needed).BlamesRequest :=
  .check rfl (blamesRequest_ok _)

theorem Pipe.blamesRequest_check (p : Pipe) (s : Source) : (p.check s).BlamesRequest := by
  refine (p.blamesRequest_require _ _).bind fun _ => ?_
  refine (p.blamesRequest_require _ _).bind fun _ => ?_
  refine (p.blamesRequest_require _ _).bind fun _ => BlamesRequest.ite ?_ (blamesRequest_ok _)
  refine (p.blamesRequest_require _ _).bind fun _ => ?_
  exact (Scaler.blamesRequest_check _ _).bind fun _ => Scaler.blamesRequest_check _ _

namespace Compiler

variable {c : Compiler} {width height : UInt32}

theorem blamesRequest_checkRect (pipe : Nat) (role : RectRole) (r : Rect) :
    (checkRect pipe role r).BlamesRequest :=
  .check rfl (blamesRequest_ok _)

theorem blamesRequest_checkRects (width height : UInt32) (l : Layer) :
    (checkRects width height l).BlamesRequest := by
  refine (blamesRequest_checkRect _ _ _).bind fun _ => ?_
  refine (blamesRequest_checkRect _ _ _).bind fun _ => ?_
  exact .check rfl (.check rfl (blamesRequest_ok _))

theorem blamesRequest_resolveLayer (before : List Layer) (l : Layer) :
    (c.resolveLayer width height before l).BlamesRequest := by
  unfold resolveLayer
  dsimp only
  cases c.pipes[l.pipe.toNat]? with
  | none => exact blamesRequest_reject rfl
  | some pipe =>
    refine .check rfl (.check rfl ?_)
    refine (blamesRequest_checkRects width height l).bind fun _ => ?_
    refine (Source.blamesRequest_ofLayer l).bind fun source => ?_
    exact (pipe.blamesRequest_check source).bind fun _ => blamesRequest_ok _

theorem blamesRequest_resolveAfter (before layers : List Layer) :
    (c.resolveAfter width height before layers).BlamesRequest := by
  induction layers generalizing before with
  | nil => exact blamesRequest_ok []
  | cons l layers ih =>
    exact (blamesRequest_resolveLayer before l).bind fun _ =>
      (ih _).bind fun _ => blamesRequest_ok _

end Compiler

/-! ### Strips -/

theorem blamesRequest_needsStrips (sources : List Source) (target : Target)
    (limits : StripLimits) : (needsStrips sources target limits).BlamesRequest := by
  refine .check rfl (BlamesRequest.bind ?_ fun _ => blamesRequest_ok _)
  exact blamesRequest_forM (fun _ => .check rfl (.check rfl (blamesRequest_ok _))) sources

theorem blamesRequest_moveAddresses (offset : Fin 3 → Nat) (planes : List (Fin 3))
    (address : Vector UInt64 3) : (moveAddresses offset planes address).BlamesRequest := by
  induction planes generalizing address with
  | nil => exact blamesRequest_ok address
  | cons p planes ih => exact (blamesRequest_fit64 _).bind fun _ => ih _

theorem Target.blamesRequest_strip (t : Target) (s : Strip) : (t.strip s).BlamesRequest :=
  .check rfl ((blamesRequest_moveAddresses _ _ _).bind fun _ => blamesRequest_ok _)

theorem Source.blamesRequest_shiftColumns (s : Source) (clipped : Layer) (shift width : UInt32) :
    (s.shiftColumns clipped shift width).BlamesRequest :=
  (blamesRequest_moveAddresses _ _ _).bind fun _ =>
    (blamesRequest_fit32 _).bind fun _ => blamesRequest_ok _

theorem Layer.blamesRequest_shiftRows (clipped : Layer) (shift height : UInt32) :
    (clipped.shiftRows shift height).BlamesRequest :=
  (blamesRequest_fit32 _).bind fun _ => blamesRequest_ok _

theorem Source.blamesRequest_clip (source : Source) (s : Strip) :
    (source.clip s).BlamesRequest := by
  unfold clip
  dsimp only
  split
  · exact blamesRequest_ok none
  · refine BlamesRequest.map ?_
    cases source.layer.rotation with
    | none | vFlip | hFlip | rot180 => exact source.blamesRequest_shiftColumns _ _ _
    | rot90 | hFlip90 | rot270 | vFlip90 => exact Layer.blamesRequest_shiftRows _ _ _

theorem blamesRequest_plan (sources : List Source) (target : Target) (limits : StripLimits) :
    (plan sources target limits).BlamesRequest := by
  refine blamesRequest_mapM (fun s => ?_) _
  refine (blamesRequest_mapM (fun source => source.blamesRequest_clip s) sources).bind fun _ => ?_
  exact (target.blamesRequest_strip s).bind fun _ => blamesRequest_ok _

/-! ### Frames -/

theorem blamesRequest_allocate (weights : List UInt8) (pools : Pools) (forCopy : Bool) :
    (allocate weights pools forCopy).BlamesRequest :=
  .check rfl (blamesRequest_ok _)

theorem Wiring.blamesRequest_ofLayers (layers : List Layer) (background : Option UInt32)
    (porterDuff : Option PorterDuff) (width height : UInt32) :
    (Wiring.ofLayers layers background porterDuff width height).BlamesRequest := by
  have hadd (w : Wiring) (l : Layer) : (w.add l).BlamesRequest := by
    unfold Wiring.add
    split
    · split
      · exact blamesRequest_ok _
      · exact blamesRequest_reject rfl
    · exact blamesRequest_reject rfl
  refine (blamesRequest_foldlM hadd _ _).bind fun wired => ?_
  cases porterDuff with
  | none => exact blamesRequest_ok _
  | some pd => exact .check rfl (.check rfl (blamesRequest_ok _))

namespace Compiler

variable {c : Compiler} {why : Rejection}

theorem blamesRequest_composeFrame (commandId : UInt32) (isStrip : Bool) (sources : List Source)
    (target : Target) (background : Option UInt32) (porterDuff : Option PorterDuff)
    (reserved : Bool) :
    (c.composeFrame commandId isStrip sources target background porterDuff
      reserved).BlamesRequest :=
  (blamesRequest_allocate _ _ _).bind fun _ => (blamesRequest_allocate _ _ _).bind fun _ =>
    (Wiring.blamesRequest_ofLayers _ _ _ _ _).bind fun _ => blamesRequest_ok _

theorem blamesRequest_stripFrame (r : Request) (target : Target) (job : StripJob) :
    (c.stripFrame r target job).BlamesRequest :=
  (blamesRequest_mapM Source.blamesRequest_ofLayer _).bind fun _ =>
    blamesRequest_composeFrame _ _ _ _ _ _ _

theorem blamesRequest_fillTarget (fill : Fill) (output : Output) :
    (fillTarget fill output).BlamesRequest := by
  refine (Target.blamesRequest_ofOutput output).bind fun whole => ?_
  refine .check rfl (.check rfl ?_)
  exact (blamesRequest_moveAddresses _ _ _).bind fun _ => blamesRequest_ok _

/-! ### Programs -/

/-- **A composition that does not compile cannot be expressed.** -/
theorem kind_of_compose {r : Request} (h : c.compose r = .error (.rejected why)) :
    why.kind = .invalidConfiguration := by
  rw [compose_eq_bind] at h
  refine BlamesRequest.bind (Target.blamesRequest_ofOutput _) (fun target => ?_) why h
  refine (blamesRequest_resolveAfter _ _).bind fun sources => ?_
  refine (blamesRequest_needsStrips _ _ _).bind fun strips => BlamesRequest.ite ?_ ?_
  · refine (blamesRequest_plan _ _ _).bind fun jobs => ?_
    refine BlamesRequest.bind ?_ fun _ => blamesRequest_ok _
    exact blamesRequest_mapM (fun job => (blamesRequest_stripFrame r target job).map) jobs
  · exact (blamesRequest_composeFrame _ _ _ _ _ _ _).bind fun _ => blamesRequest_ok _

/-- So it is with a fill. -/
theorem kind_of_fill {fill : Fill} {output : Output}
    (h : c.fill fill output = .error (.rejected why)) : why.kind = .invalidConfiguration := by
  refine BlamesRequest.bind (BlamesRequest.bind (blamesRequest_fillTarget fill output)
    fun target => ?_) (fun _ => blamesRequest_ok _) why h
  refine (blamesRequest_allocate _ _ _).bind fun _ => ?_
  refine (blamesRequest_allocate _ _ _).bind fun _ => ?_
  exact (Wiring.blamesRequest_ofLayers _ _ _ _ _).bind fun _ => blamesRequest_ok _

/-- So it is with a copy. -/
theorem kind_of_copy {k : Copy} (h : c.copy k = .error (.rejected why)) :
    why.kind = .invalidConfiguration := by
  have hcheck : (checkCopy k).BlamesRequest :=
    .check rfl (.check rfl (.check rfl (blamesRequest_ok _)))
  refine BlamesRequest.bind hcheck (fun _ => ?_) why h
  refine (blamesRequest_allocate _ _ _).bind fun _ => ?_
  exact (blamesRequest_allocate _ _ _).bind fun _ => blamesRequest_ok _

end Compiler

end Blitter
