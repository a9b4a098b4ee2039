import Blitter.Proofs.Compiler.CommandChannel
import Blitter.Proofs.Compiler.Composed
import Blitter.Proofs.Compiler.StripChecks
import Blitter.Proofs.ReadPipe
import Mathlib.Data.List.Perm.Subperm

/-!
# How the read channels are divided

A source raises the weights of the channels that its pipe starts at. Nothing looks at how many
channels the pipe has. That no source reaches into the channels of another pipe follows from checks
made elsewhere: the pipes are wired to channels one after the other (`Pipe.pairwise_chain`), a pipe
with one channel turns video down, everything but video lies in one plane
(`Pipe.fits_of_check`), and no two layers share a pipe. So the channels are neither
shared nor starved: whatever a frame of an accepted composition is made for, they are `Divided`
(`divided_of_hands`).
-/

namespace Blitter

/-! ### Shares of pools with room -/

/-- The pools **have room** for a sum of weights: one unit of each pool for every unit of weight. -/
structure Pools.HasRoom (pools : Pools) (total : Nat) : Prop where
  watermark : total ≤ pools.watermark.toNat
  data : total ≤ pools.data.toNat
  command : total ≤ pools.command.toNat

/-- The shares **serve the weights** from the pools: each channel that weighs anything has something
of every pool, and no pool is given out more than once. -/
structure Allocation.Serves (a : Allocation) (weights : List UInt8) (pools : Pools) : Prop where
  weights : a.shares.map Share.weight = weights
  served : ∀ s ∈ a.shares, s.weight ≠ 0 → s.watermark ≠ 0 ∧ s.data ≠ 0 ∧ s.command ≠ 0
  watermark : (a.shares.map fun s => s.watermark.toNat).sum ≤ pools.watermark.toNat
  data : (a.shares.map fun s => s.data.toNat).sum ≤ pools.data.toNat
  command : (a.shares.map fun s => s.command.toNat).sum ≤ pools.command.toNat

namespace Allocation

/-- What pools with room are split into **serves every channel**. -/
theorem serves_of_hasRoom {weights : List UInt8} {pools : Pools} {a : Allocation}
    (hroom : pools.HasRoom (totalWeight weights)) (h : allocate weights pools false = .ok a) :
    a.Serves weights pools := by
  obtain ⟨-, rfl⟩ := allocate_eq_ok_iff.mp h
  constructor
  case weights =>
    rw [List.map_map]
    exact List.map_id _
  case served =>
    intro s hs hweight
    obtain ⟨v, hv, rfl⟩ := List.mem_map.mp hs
    have hvpos : 0 < v.toNat := Nat.pos_of_ne_zero fun hzero => hweight (UInt8.toNat_inj.mp hzero)
    have hle := toNat_le_totalWeight hv
    exact ⟨part_ne_zero hvpos hle hroom.watermark, part_ne_zero hvpos hle hroom.data,
      part_ne_zero hvpos hle hroom.command⟩
  case watermark =>
    rw [List.map_map]
    exact sum_part_le pools.watermark weights
  case data =>
    rw [List.map_map]
    exact sum_part_le pools.data weights
  case command =>
    rw [List.map_map]
    exact sum_part_le pools.command weights

/-- Raising a channel adds **no more than the weight** it is raised to. -/
theorem totalWeight_raise_le (weights : List UInt8) (channel : Nat) (weight : UInt8) :
    totalWeight (raise weights channel weight) ≤ totalWeight weights + weight.toNat := by
  induction weights generalizing channel with
  | nil =>
    cases channel <;> exact Nat.zero_le _
  | cons w weights ih =>
    cases channel with
    | zero =>
      show (max w weight).toNat + totalWeight weights ≤ w.toNat + totalWeight weights + weight.toNat
      rw [UInt8.toNat_max]
      omega
    | succ channel =>
      have := ih channel
      show w.toNat + totalWeight (raise weights channel weight) ≤
        w.toNat + totalWeight weights + weight.toNat
      omega

theorem totalWeight_foldl_raise_le (marks : List (Nat × UInt8)) (weights : List UInt8) :
    totalWeight (marks.foldl (fun ws x => raise ws x.1 x.2) weights) ≤
      totalWeight weights + (marks.map fun x => x.2.toNat).sum := by
  induction marks generalizing weights with
  | nil => exact Nat.le_refl _
  | cons x marks ih =>
    have hhead := totalWeight_raise_le weights x.1 x.2
    have htail := ih (raise weights x.1 x.2)
    rw [List.foldl_cons, List.map_cons, List.sum_cons]
    omega

end Allocation

namespace Generation

variable (g : Generation)

theorem hasRoom_readPools (sources : List Source) (reserved : Bool) :
    g.readPools.HasRoom (Allocation.totalWeight (g.readWeights sources reserved)) := by
  obtain ⟨hwatermark, hdata, hcommand⟩ := g.totalWeight_readWeights_le sources reserved
  exact ⟨hwatermark, hdata, hcommand⟩

/-- **A write channel weighs at most one.** -/
theorem toNat_le_of_mem_writeWeights (t : Target) : ∀ w ∈ g.writeWeights t, w.toNat ≤ 1 := by
  refine List.foldlRecOn (motive := fun (ws : List UInt8) => ∀ w ∈ ws, w.toNat ≤ 1) _ _ ?_
    fun _ hws _ _ => toNat_le_of_mem_raise hws (by decide)
  intro w hw
  obtain ⟨-, rfl⟩ := List.mem_replicate.mp hw
  decide

theorem hasRoom_writePools (t : Target) :
    g.writePools.HasRoom (Allocation.totalWeight (g.writeWeights t)) := by
  have htotal := Allocation.totalWeight_le (g.toNat_le_of_mem_writeWeights t)
  rw [length_writeWeights, Nat.mul_one] at htotal
  have hpools : g.writePools.HasRoom g.writeChannels := by
    cases g <;> exact ⟨by decide, by decide, by decide⟩
  exact ⟨htotal.trans hpools.watermark, htotal.trans hpools.data, htotal.trans hpools.command⟩

end Generation

/-! ### Channels of the pipes -/

namespace Pipe

/-- The channel is one of **those that the pipe is wired to**. -/
def HasChannel (p : Pipe) (n : Nat) : Prop :=
  p.firstChannel ≤ n ∧ n < p.firstChannel + p.kind.channels

theorem hasChannel_firstChannel (p : Pipe) : p.HasChannel p.firstChannel := by
  have hpos : 0 < p.kind.channels := by cases p.kind <;> decide
  exact ⟨Nat.le_refl _, Nat.lt_add_of_pos_right hpos⟩

variable {index channel : Nat} {kinds : List PipeKind} {p : Pipe}

/-- Pipes take up as many channels as their kinds have together. -/
theorem channels_of_mem_chain (h : p ∈ chain index channel kinds) :
    channel ≤ p.firstChannel ∧
      p.firstChannel + p.kind.channels ≤ channel + (kinds.map PipeKind.channels).sum := by
  induction kinds generalizing index channel with
  | nil => cases h
  | cons kind kinds ih =>
    rw [List.map_cons, List.sum_cons]
    rcases List.mem_cons.mp h with rfl | h
    · exact ⟨Nat.le_refl _, Nat.add_le_add_left (Nat.le_add_right _ _) _⟩
    · have := ih h
      omega

/-- A pipe's channels come **after those of the pipes before it**. -/
theorem pairwise_chain (index channel : Nat) (kinds : List PipeKind) :
    (chain index channel kinds).Pairwise fun p q =>
      p.firstChannel + p.kind.channels ≤ q.firstChannel := by
  induction kinds generalizing index channel with
  | nil => exact .nil
  | cons kind kinds ih =>
    exact .cons (fun _ hq => (channels_of_mem_chain hq).1) (ih _ _)

theorem map_kind_chain (index channel : Nat) (kinds : List PipeKind) :
    (chain index channel kinds).map kind = kinds := by
  induction kinds generalizing index channel with
  | nil => rfl
  | cons kind kinds ih => exact congrArg (kind :: ·) (ih _ _)

end Pipe

namespace Generation

variable {g : Generation} {p q : Pipe} {i j : Nat}

/-- The pipes leave at least one read channel free. -/
theorem sum_channels_lt (g : Generation) :
    (g.pipeKinds.map PipeKind.channels).sum < g.readChannels := by
  cases g <;> decide

/-- No pipe is wired to **the last read channel**. -/
theorem not_hasChannel_last (h : p ∈ g.pipes) : ¬ p.HasChannel (g.readChannels - 1) := by
  obtain ⟨-, hle⟩ := Pipe.channels_of_mem_chain h
  have := g.sum_channels_lt
  unfold Pipe.HasChannel
  omega

/-- **Two pipes have no channel in common.** -/
theorem not_hasChannel_of_ne (hp : g.pipes[i]? = some p) (hq : g.pipes[j]? = some q) (hij : i ≠ j)
    {n : Nat} (hn : p.HasChannel n) : ¬ q.HasChannel n := by
  have hpair := List.pairwise_iff_getElem.mp (Pipe.pairwise_chain 0 0 g.pipeKinds)
  obtain ⟨hi, rfl⟩ := List.getElem?_eq_some_iff.mp hp
  obtain ⟨hj, rfl⟩ := List.getElem?_eq_some_iff.mp hq
  unfold Pipe.HasChannel at hn ⊢
  rcases Nat.lt_or_gt_of_ne hij with hlt | hlt
  · have : g.pipes[i].firstChannel + g.pipes[i].kind.channels ≤ g.pipes[j].firstChannel :=
      hpair i j hi hj hlt
    omega
  · have : g.pipes[j].firstChannel + g.pipes[j].kind.channels ≤ g.pipes[i].firstChannel :=
      hpair j i hj hi hlt
    omega

end Generation

/-! ### Weights of a source -/

/-- The layout **fits a kind of pipe**: it uses the channels that the kind has and no others, and
weighs no more than these together. -/
structure PixelLayout.FitsPipe (l : PixelLayout) (k : PipeKind) : Prop where
  channels : ∀ x ∈ l.channelWeights, x.1 < k.channels
  weight : (l.channelWeights.map fun x => x.2.toNat).sum ≤ k.channels

/-- What is not video lies in one plane. -/
theorem PixelLayout.channelWeights_of_mem_catalog :
    ∀ f ∈ Format.catalog, f.layout.yuv = false → f.layout.channelWeights = [(0, 1)] := by
  decide

/-- What a pipe can fetch **fits its channels**. -/
theorem Pipe.fits_of_check {p : Pipe} {s : Source} (h : p.check s = .ok ())
    (hcatalog : ∃ f ∈ Format.catalog, s.layout = f.layout) : s.layout.FitsPipe p.kind := by
  have hgraphics : (∀ x ∈ s.layout.channelWeights, x.1 < 3) ∧
      (s.layout.channelWeights.map fun x => x.2.toNat).sum ≤ 3 := by
    unfold PixelLayout.channelWeights
    cases s.layout.planarity <;> cases s.layout.chroma <;> decide
  cases hkind : p.kind with
  | rotating => exact ⟨hgraphics.1, hgraphics.2⟩
  | upright => exact ⟨hgraphics.1, hgraphics.2⟩
  | simple =>
    -- a simple pipe turns video down, and nothing else has a second plane
    obtain ⟨hyuv, -⟩ := check_eq_ok_iff.mp h
    rw [hkind] at hyuv
    obtain ⟨f, hf, hlayout⟩ := hcatalog
    have hrgb : f.layout.yuv = false :=
      Bool.eq_false_iff.mpr fun htrue => Bool.false_ne_true (hyuv (hlayout ▸ htrue))
    have hweights := PixelLayout.channelWeights_of_mem_catalog f hf hrgb
    rw [hlayout]
    constructor
    · rw [hweights]
      decide
    · rw [hweights]
      decide

namespace Source

/-- The source **puts weight on a channel**: there are weights that it changes there. -/
def Weighs (pipes : List Pipe) (s : Source) (n : Nat) : Prop :=
  ∃ weights : List UInt8, (s.mark pipes weights)[n]? ≠ weights[n]?

/-- The source is **on a pipe that it fits**. -/
structure FitsOn (pipes : List Pipe) (s : Source) (p : Pipe) : Prop where
  found : pipes[s.layer.pipe.toNat]? = some p
  layout : s.layout.FitsPipe p.kind

variable {pipes : List Pipe} {s t : Source} {p q : Pipe}

/-- Channels that are raised nowhere keep their weights. -/
theorem getElem?_foldl_raise {n : Nat} {marks : List (Nat × UInt8)} (h : ∀ x ∈ marks, x.1 ≠ n)
    (weights : List UInt8) :
    (marks.foldl (fun ws x => raise ws x.1 x.2) weights)[n]? = weights[n]? := by
  refine List.foldlRecOn (motive := fun (ws : List UInt8) => ws[n]? = weights[n]?) _ _ rfl ?_
  intro ws hws x hx
  simp only [getElem?_raise, if_neg (h x hx), hws]
  exact Option.map_id'

/-- A source on a pipe that it fits **weighs on channels of that pipe** only. -/
theorem FitsOn.hasChannel_of_weighs (h : s.FitsOn pipes p) {n : Nat} (hn : s.Weighs pipes n) :
    p.HasChannel n := by
  obtain ⟨weights, hne⟩ := hn
  by_contra hout
  refine hne ?_
  rw [mark_eq_foldl]
  refine getElem?_foldl_raise ?_ weights
  simp only [marks, h.found]
  intro x hx heq
  obtain ⟨⟨c, w⟩, hc, rfl⟩ := List.mem_map.mp hx
  have hlt : c < p.kind.channels := h.layout.channels _ hc
  dsimp only at heq
  refine hout ⟨?_, ?_⟩ <;> omega

/-- Marking a source adds no more than **one for each channel of its pipe**. -/
theorem FitsOn.totalWeight_mark_le (h : s.FitsOn pipes p) (weights : List UInt8) :
    Allocation.totalWeight (s.mark pipes weights) ≤
      Allocation.totalWeight weights + p.kind.channels := by
  have hmarks : ((s.marks pipes).map fun x => x.2.toNat).sum ≤ p.kind.channels := by
    simp only [marks, h.found, List.map_map]
    exact h.layout.weight
  rw [mark_eq_foldl]
  exact (Allocation.totalWeight_foldl_raise_le _ weights).trans (Nat.add_le_add_left hmarks _)

/-- Sources on their pipes add no more than **one for each channel of these**. -/
theorem totalWeight_foldl_mark_le {sources : List Source} {ps : List Pipe}
    (h : List.Forall₂ (fun s p => s.FitsOn pipes p) sources ps) (weights : List UInt8) :
    Allocation.totalWeight (sources.foldl (mark pipes) weights) ≤
      Allocation.totalWeight weights + (ps.map fun p => p.kind.channels).sum := by
  induction h generalizing weights with
  | nil => exact Nat.le_refl _
  | @cons s p sources ps hs _ ih =>
    have hhead := hs.totalWeight_mark_le weights
    have htail := ih (s.mark pipes weights)
    rw [List.foldl_cons, List.map_cons, List.sum_cons]
    omega

end Source

/-! ### Channels that are divided -/

/-- The read channels are **divided among the sources**: each weighs on channels of its own pipe,
no two weigh on one channel, the last channel is kept for what it is reserved for, and all weigh no
more than one unit for each channel. -/
structure Generation.Divided (g : Generation) (sources : List Source) (reserved : Bool) : Prop where
  own : ∀ s ∈ sources, ∃ p, g.pipes[s.layer.pipe.toNat]? = some p ∧
    ∀ n, s.Weighs g.pipes n → p.HasChannel n
  apart : sources.Pairwise fun s t => ∀ n, s.Weighs g.pipes n → ¬ t.Weighs g.pipes n
  last : (g.readWeights sources reserved)[g.readChannels - 1]? = some (if reserved then 1 else 0)
  total : Allocation.totalWeight (g.readWeights sources reserved) ≤ g.readChannels

namespace Generation

variable {g : Generation} {sources : List Source} {ps : List Pipe}

/-- Different pipes have **no more channels than all pipes** together. -/
theorem sum_channels_le (hsub : ps ⊆ g.pipes) (hnodup : ps.Nodup) :
    (ps.map fun p => p.kind.channels).sum ≤ (g.pipeKinds.map PipeKind.channels).sum := by
  obtain ⟨qs, hperm, hsublist⟩ := hnodup.subperm hsub
  have hkinds : g.pipeKinds.map PipeKind.channels = g.pipes.map fun p => p.kind.channels := by
    rw [← Pipe.map_kind_chain 0 0 g.pipeKinds, List.map_map]
    rfl
  rw [hkinds, ← (hperm.map _).sum_eq]
  exact (hsublist.map _).sum_le_sum fun _ _ => Nat.zero_le _

section OnPipes

variable (h : List.Forall₂ (fun s p => Source.FitsOn g.pipes s p) sources ps)
include h

theorem subset_pipes_of_forall₂ : ps ⊆ g.pipes := by
  intro p hp
  obtain ⟨i, hi, rfl⟩ := List.mem_iff_getElem.mp hp
  have hfits := h.get (h.length_eq ▸ hi) hi
  exact List.mem_of_getElem? hfits.found

/-- Sources that name different pipes are on different pipes. -/
theorem nodup_of_forall₂ (hpipes : sources.Pairwise fun s t => s.layer.pipe ≠ t.layer.pipe) :
    ps.Nodup := by
  rw [List.pairwise_iff_getElem] at hpipes
  refine List.pairwise_iff_getElem.mpr fun i j hi hj hij heq => ?_
  have hi' : i < sources.length := h.length_eq ▸ hi
  have hj' : j < sources.length := h.length_eq ▸ hj
  refine not_hasChannel_of_ne (h.get hi' hi).found (h.get hj' hj).found
    (fun hpipe => hpipes i j hi' hj' hij (UInt8.toNat_inj.mp hpipe))
    (Pipe.hasChannel_firstChannel _) ?_
  show Pipe.HasChannel ps[j] ps[i].firstChannel
  rw [heq]
  exact Pipe.hasChannel_firstChannel _

end OnPipes

/-- The last channel has a weight **only if it is reserved**: no source reaches it. -/
theorem getElem?_readWeights_last (h : ∀ s ∈ sources, ∃ p, s.FitsOn g.pipes p) (reserved : Bool) :
    (g.readWeights sources reserved)[g.readChannels - 1]? = some (if reserved then 1 else 0) := by
  have hidle : (sources.foldl (Source.mark g.pipes) (List.replicate g.readChannels 0))[
      g.readChannels - 1]? = some 0 := by
    refine List.foldlRecOn (motive := fun (ws : List UInt8) => ws[g.readChannels - 1]? = some 0)
      _ _ ?_ ?_
    · have := g.readChannels_pos
      rw [List.getElem?_replicate_of_lt (by omega)]
    · intro ws hws s hs
      obtain ⟨p, hp⟩ := h s hs
      by_contra hne
      refine not_hasChannel_last (List.mem_of_getElem? hp.found) (hp.hasChannel_of_weighs ⟨ws, ?_⟩)
      rw [hws]
      exact hne
  cases reserved with
  | false => exact hidle
  | true =>
    show (raise _ _ _)[_]? = _
    simp only [getElem?_raise, hidle, if_true]
    rfl

/-- Sources on pipes that they fit, **no two on the same pipe**, divide the channels. -/
theorem divided_of_fitsOn (hfits : ∀ s ∈ sources, ∃ p, s.FitsOn g.pipes p)
    (hpipes : sources.Pairwise fun s t => s.layer.pipe ≠ t.layer.pipe) (reserved : Bool) :
    g.Divided sources reserved := by
  have hother {s t : Source} {p q : Pipe} (hp : s.FitsOn g.pipes p) (hq : t.FitsOn g.pipes q)
      (hne : s.layer.pipe ≠ t.layer.pipe) {n : Nat} : p.HasChannel n → ¬ q.HasChannel n :=
    not_hasChannel_of_ne hp.found hq.found fun heq => hne (UInt8.toNat_inj.mp heq)
  have hidle := Allocation.totalWeight_replicate_zero g.readChannels
  have hmarked : Allocation.totalWeight
      (sources.foldl (Source.mark g.pipes) (List.replicate g.readChannels 0)) < g.readChannels := by
    obtain ⟨ps, hps⟩ := exists_forall₂ hfits
    have hpipes := sum_channels_le (subset_pipes_of_forall₂ hps) (nodup_of_forall₂ hps hpipes)
    have hsources := Source.totalWeight_foldl_mark_le hps (List.replicate g.readChannels 0)
    have := g.sum_channels_lt
    omega
  constructor
  case own =>
    intro s hs
    obtain ⟨p, hp⟩ := hfits s hs
    exact ⟨p, hp.found, fun n hn => hp.hasChannel_of_weighs hn⟩
  case apart =>
    refine hpipes.imp_of_mem ?_
    intro s t hs ht hne n hn hn'
    obtain ⟨p, hp⟩ := hfits s hs
    obtain ⟨q, hq⟩ := hfits t ht
    exact hother hp hq hne (hp.hasChannel_of_weighs hn) (hq.hasChannel_of_weighs hn')
  case last => exact getElem?_readWeights_last hfits reserved
  case total =>
    unfold readWeights
    split
    · exact (Allocation.totalWeight_raise_le _ _ _).trans hmarked
    · exact hmarked.le

end Generation

namespace Compiler

/-- A frame of the request **is made for** these sources and this target: for all that an accepted
request has, or for what reaches one strip of it. -/
inductive MakesFrame (c : Compiler) (r : Request) : List Source → Target → Prop where
  | whole {target : Target} {sources : List Source}
      (ht : Target.ofOutput r.output = .ok target) (hs : c.resolveLayers r = .ok sources)
      (hn : needsStrips sources target c.limits = .ok false) : MakesFrame c r sources target
  | strip {target : Target} {sources found : List Source} {jobs : List StripJob} {job : StripJob}
      (ht : Target.ofOutput r.output = .ok target) (hs : c.resolveLayers r = .ok sources)
      (hn : needsStrips sources target c.limits = .ok true)
      (hp : plan sources target c.limits = .ok jobs) (hj : job ∈ jobs)
      (hfound : job.layers.mapM Source.ofLayer = .ok found) :
      MakesFrame c r found { target with output := job.output }

variable {c : Compiler} {r : Request} {sources : List Source} {target : Target}

/-- An admitted source is on a pipe that it fits. -/
theorem Admitted.exists_fitsOn {width height : UInt32} {source : Source}
    (h : c.Admitted width height source) : ∃ p, source.FitsOn c.pipes p := by
  obtain ⟨pipe, hpipe, hcheck⟩ := h.fetched
  exact ⟨pipe, hpipe, Pipe.fits_of_check hcheck h.exists_mem_catalog⟩

/-- What a frame is made for has been **admitted**, and no two of its layers share a pipe. -/
theorem MakesFrame.admitted (h : c.MakesFrame r sources target) :
    (∃ width height, ∀ s ∈ sources, c.Admitted width height s) ∧
      (sources.map Source.layer).Pairwise Apart := by
  cases h with
  | whole ht hs hn =>
    obtain ⟨hlayers, hapart, hadmitted⟩ := admitted_of_resolveLayers ht hs
    exact ⟨⟨_, _, hadmitted⟩, hlayers ▸ hapart⟩
  | strip ht hs hn hp hj hfound =>
    refine ⟨⟨_, _, admitted_of_mapM_layers ht hs hp hj hn hfound⟩, ?_⟩
    rw [Source.map_layer_of_mapM hfound]
    exact apart_of_mem_plan ht hs hp hj

/-- The frames of an accepted composition **are made for this**, and their shares come from
the weights. -/
theorem makesFrame_of_mem_frames {frames : List Frame} (h : c.frames r = .ok frames) {f : Frame}
    (hf : f ∈ frames) :
    c.MakesFrame r f.sources f.target ∧
      (∃ reserved, allocate (c.generation.readWeights f.sources reserved) c.generation.readPools
        false = .ok f.read) ∧ c.writeAllocation f.target = .ok f.write := by
  obtain ⟨i, hi⟩ := List.mem_iff_getElem?.mp hf
  obtain ⟨target, sources, ht, hs, ⟨hn, -, hwhole⟩ | ⟨hn, jobs, job, hp, hj, hstrip⟩⟩ :=
    getElem?_frames h hi
  · obtain ⟨read, write, wiring, hread, hwrite, -, rfl⟩ := composeFrame_eq_ok_iff.mp hwhole
    exact ⟨.whole ht hs hn, ⟨_, hread⟩, hwrite⟩
  · obtain ⟨found, hfound, hframe⟩ := Outcome.bind_eq_ok_iff.mp hstrip
    obtain ⟨read, write, wiring, hread, hwrite, -, rfl⟩ := composeFrame_eq_ok_iff.mp hframe
    exact ⟨.strip ht hs hn hp (List.mem_of_getElem? hj) hfound, ⟨_, hread⟩, hwrite⟩

/-- **The read channels are neither shared nor starved.** Whatever a frame of an accepted
composition is made for, and whether or not the last channel is reserved, the read channels are
divided among the sources. The pools are split if any channel weighs anything, and each channel that
does gets something of all of them; so it is on the side that writes, where some channel always
does. -/
theorem divided_of_makesFrame (h : c.MakesFrame r sources target) (reserved : Bool) :
    c.generation.Divided sources reserved ∧
      ((∃ w ∈ c.generation.readWeights sources reserved, w ≠ 0) →
        ∃ read, allocate (c.generation.readWeights sources reserved) c.generation.readPools false =
          .ok read ∧
          read.Serves (c.generation.readWeights sources reserved) c.generation.readPools) ∧
      ∃ write, c.writeAllocation target = .ok write ∧
        write.Serves (c.generation.writeWeights target) c.generation.writePools := by
  obtain ⟨⟨width, height, hadmitted⟩, hapart⟩ := h.admitted
  have hfits : ∀ s ∈ sources, ∃ p, s.FitsOn c.generation.pipes p := fun s hs =>
    (hadmitted s hs).exists_fitsOn
  refine ⟨Generation.divided_of_fitsOn hfits ?_ reserved, ?_, ?_⟩
  · exact (List.pairwise_map.mp hapart).imp fun hne => hne.1
  · rintro ⟨w, hw, hne⟩
    obtain ⟨read, hread⟩ :=
      Allocation.exists_allocate_of_ne_zero hw hne c.generation.readPools
    exact ⟨read, hread, Allocation.serves_of_hasRoom (c.generation.hasRoom_readPools _ _) hread⟩
  · obtain ⟨write, hwrite⟩ := exists_writeAllocation c target
    exact ⟨write, hwrite, Allocation.serves_of_hasRoom (c.generation.hasRoom_writePools _) hwrite⟩

/-- Planar video of full color beside a linear layer on a simple pipe, cut because the picture is
turned. -/
def mixedLayers : Request :=
  { layers := [
      { format := .ofLetters 'Y' 'U' '2' '4', src := ⟨0, 0, 512, 64⟩, dst := ⟨0, 0, 512, 64⟩
        pipe := 1, address := forPlanes 0x1000 0x20000 0x40000, stride := forPlanes 512 512 512 },
      { format := .ofLetters 'A' 'R' '2' '4', src := ⟨0, 0, 64, 64⟩, dst := ⟨32, 0, 64, 64⟩
        depth := 1, pipe := 3, address := forPlanes 0x60000 0 0, stride := forPlanes 256 0 0 }]
    output :=
      { format := .ofLetters 'N' 'V' '1' '2', width := 512, height := 64, rotation := .rot180
        address := forPlanes 0x80000 0xA0000 0, stride := forPlanes 512 512 0 } }

/-- In the first strip of it the two layers **keep to their own channels**: the color planes share
one, and the simple pipe has one. -/
theorem divided_mixedLayers :
    ∃ sources target, (ofGeneration .normal).MakesFrame mixedLayers sources target ∧
      Generation.normal.readWeights sources true = [0, 0, 0, 1, 2, 0, 0, 0, 0, 1, 0, 1] ∧
      Generation.normal.Divided sources true ∧
      ∃ read write, allocate (Generation.normal.readWeights sources true)
          Generation.normal.readPools false = .ok read ∧
        read.Serves (Generation.normal.readWeights sources true) Generation.normal.readPools ∧
        (ofGeneration .normal).writeAllocation target = .ok write ∧
        write.Serves (Generation.normal.writeWeights target) Generation.normal.writePools := by
  have hmakes : (ofGeneration .normal).MakesFrame mixedLayers _ _ :=
    .strip rfl rfl rfl rfl List.mem_cons_self rfl
  obtain ⟨hdivided, hread, write, hwrite, hserves⟩ := divided_of_makesFrame hmakes true
  have hlast := hdivided.last
  obtain ⟨read, hread, hserved⟩ := hread ⟨1, List.mem_of_getElem? hlast, by decide⟩
  exact ⟨_, _, hmakes, rfl, hdivided, read, write, hread, hserved, hwrite, hserves⟩

end Compiler

end Blitter
