import Blitter.Wiring
import Blitter.Proofs.Outcome

/-!
# Which sub-frames are switched on

Every sub-frame of a wired compositor is switched off or belongs to a layer (`Subframe.IsWired`),
so that its control word tells whether it is switched on and whether it has a color key. The
sub-frames switched on are those of the pipes that the layers name (`hasLayer_ofLayers_iff`), and
an operator is set only between two of them.
-/

namespace Blitter

namespace Subframe

/-- The sub-frame is switched off or is that of a layer. -/
def IsWired (s : Subframe) : Prop := s = off ∨ ∃ l, s = ofLayer l

/-- The bits of a layer's control word: one **switches it on**, one has a part in its blending, and
one gives it a color key. -/
theorem control_ofLayer (blend : Blend) (keyed : Bool) :
    let control := (if blend = .none then Register.subframeGlobalAlpha else 0) |||
      (if keyed then Register.subframeColorKey else 0) ||| Register.subframeEnable
    (control &&& Register.subframeEnable != 0) = true ∧
      (control &&& Register.subframeGlobalAlpha != 0) = (blend == .none) ∧
      (control &&& Register.subframeColorKey != 0) = keyed := by
  cases blend <;> cases keyed <;> decide

theorem isEnabled_ofLayer (l : Layer) : (ofLayer l).isEnabled = true :=
  (control_ofLayer l.blend l.colorKey.isSome).1

/-- The control word of a sub-frame that is switched on **tells whether it has a color key**. -/
theorem IsWired.control_and_colorKey {s : Subframe} (h : s.IsWired) (hs : s.isEnabled = true) :
    (s.control &&& Register.subframeColorKey != 0) = s.colorKey.isSome := by
  rcases h with rfl | ⟨l, rfl⟩
  · cases hs
  · exact (control_ofLayer l.blend l.colorKey.isSome).2.2

end Subframe

namespace Wiring

/-- Every sub-frame is switched off or is that of a layer. -/
def Sound (w : Wiring) : Prop := ∀ s ∈ w.subframes.toList, s.IsWired

theorem sound_empty (background : Option UInt32) (width height : UInt32) :
    (empty background width height).Sound := by
  intro s hs
  obtain ⟨-, rfl⟩ := List.mem_replicate.mp hs
  exact .inl rfl

/-- In an empty compositor every sub-frame is switched off. -/
theorem hasLayer_empty (background : Option UInt32) (width height : UInt32) (pipe : UInt8) :
    (empty background width height).hasLayer pipe = false := by
  unfold hasLayer
  split
  case h_1 s hs =>
    have hmem : s ∈ (empty background width height).subframes.toList :=
      Vector.mem_toList_iff.mpr (Vector.mem_of_getElem? hs)
    obtain ⟨-, rfl⟩ := List.mem_replicate.mp hmem
    rfl
  case h_2 => rfl

variable {w w' : Wiring} {l : Layer} {layers : List Layer}

theorem add_eq_ok_iff :
    w.add l = .ok w' ↔ ∃ (hp : l.pipe.toNat < subframeCount) (hd : l.depth.toNat < slotCount),
      w.addAt l ⟨_, hp⟩ ⟨_, hd⟩ = w' := by
  unfold add
  split
  case isTrue hp =>
    split
    case isTrue hd => simp only [Except.ok.injEq, hp, hd, exists_true_left]
    case isFalse hd => exact iff_of_false reject_ne_ok fun ⟨_, hd', _⟩ => hd hd'
  case isFalse hp => exact iff_of_false reject_ne_ok fun ⟨hp', _⟩ => hp hp'

/-- A layer is turned down if it is **on a pipe or at a depth that the compositor lacks**. -/
theorem add_eq_error_iff {e : Failure} :
    w.add l = .error e ↔ ¬ (l.pipe.toNat < subframeCount ∧ l.depth.toNat < slotCount) ∧
      e = .rejected (.layerIndex l.pipe.toNat l.depth.toNat) := by
  unfold add
  split
  case isTrue hp =>
    split
    case isTrue hd => exact iff_of_false nofun fun h => h.1 ⟨hp, hd⟩
    case isFalse hd =>
      simp only [reject, Except.error.injEq, hd, and_false, not_false_eq_true, true_and,
        eq_comm (a := e)]
  case isFalse hp =>
    simp only [reject, Except.error.injEq, hp, false_and, not_false_eq_true, true_and,
      eq_comm (a := e)]

theorem Sound.add (h : w.Sound) (hw : w.add l = .ok w') : w'.Sound := by
  obtain ⟨hp, hd, rfl⟩ := add_eq_ok_iff.mp hw
  intro s hs
  obtain ⟨i, hi, rfl⟩ := List.mem_iff_getElem.mp hs
  rw [Vector.length_toList] at hi
  simp only [addAt, Vector.getElem_toList, Vector.getElem_set]
  split
  · exact .inr ⟨l, rfl⟩
  · exact h _ (Vector.mem_toList_iff.mpr (Vector.getElem_mem hi))

/-- A layer switches on **the sub-frame of its pipe** and no other. -/
theorem hasLayer_add_iff (hw : w.add l = .ok w') (pipe : UInt8) :
    w'.hasLayer pipe = true ↔ l.pipe = pipe ∨ w.hasLayer pipe = true := by
  obtain ⟨hp, hd, rfl⟩ := add_eq_ok_iff.mp hw
  by_cases h : l.pipe = pipe
  · subst h
    simp only [hasLayer, addAt, Vector.getElem?_set_self, Subframe.isEnabled_ofLayer, true_or]
  · have hne : l.pipe.toNat ≠ pipe.toNat := fun heq => h (UInt8.toNat_inj.mp heq)
    simp only [hasLayer, addAt, Vector.getElem?_set_ne hp hne, h, false_or]

theorem sound_of_foldlM (h : w.Sound) (hw : layers.foldlM add w = .ok w') : w'.Sound := by
  induction layers generalizing w with
  | nil =>
    cases hw
    exact h
  | cons l layers ih =>
    obtain ⟨v, hv, hw⟩ := Outcome.bind_eq_ok_iff.mp hw
    exact ih (h.add hv) hw

theorem hasLayer_foldlM_iff (hw : layers.foldlM add w = .ok w') (pipe : UInt8) :
    w'.hasLayer pipe = true ↔ (∃ l ∈ layers, l.pipe = pipe) ∨ w.hasLayer pipe = true := by
  induction layers generalizing w with
  | nil =>
    cases hw
    simp only [List.not_mem_nil, false_and, exists_false, false_or]
  | cons l layers ih =>
    obtain ⟨v, hv, hw⟩ := Outcome.bind_eq_ok_iff.mp hw
    rw [ih hw, hasLayer_add_iff hv, List.exists_mem_cons_iff, or_left_comm, or_assoc]

theorem exists_of_foldlM_eq_error {e : Failure} (h : layers.foldlM add w = .error e) :
    ∃ l ∈ layers, ¬ (l.pipe.toNat < subframeCount ∧ l.depth.toNat < slotCount) ∧
      e = .rejected (.layerIndex l.pipe.toNat l.depth.toNat) := by
  induction layers generalizing w with
  | nil => cases h
  | cons l layers ih =>
    rw [List.foldlM_cons, Outcome.bind_eq_error_iff] at h
    rcases h with h | ⟨v, -, h⟩
    · exact ⟨l, List.mem_cons_self, add_eq_error_iff.mp h⟩
    · obtain ⟨k, hk, h⟩ := ih h
      exact ⟨k, List.mem_cons_of_mem l hk, h⟩

theorem setOperator_eq_ok_iff {pd : PorterDuff} :
    w.setOperator pd = .ok w' ↔
      w.hasLayer pd.srcPipe = true ∧ w.hasLayer pd.dstPipe = true ∧
        { w with porterDuff := some pd } = w' := by
  rw [setOperator, ite_rejectGeometry_eq_ok_iff, ite_rejectGeometry_eq_ok_iff, Bool.not_eq_true',
    Bool.not_eq_false, Bool.not_eq_true', Bool.not_eq_false, Except.ok.injEq]

section OfLayers

variable {background : Option UInt32} {porterDuff : Option PorterDuff} {width height : UInt32}

/-- **What wiring asks for**: that every layer has its place, and that both layers of the operator
are there. -/
theorem ofLayers_eq_ok_iff :
    ofLayers layers background porterDuff width height = .ok w ↔
      ∃ wired, (layers.filter Layer.enabled).foldlM add (empty background width height) =
          .ok wired ∧
        (∀ pd ∈ porterDuff, wired.hasLayer pd.srcPipe = true ∧ wired.hasLayer pd.dstPipe = true) ∧
        w = { wired with porterDuff := porterDuff.or wired.porterDuff } := by
  unfold ofLayers
  rw [Outcome.bind_eq_ok_iff]
  refine exists_congr fun wired => and_congr_right fun _ => ?_
  cases porterDuff with
  | none =>
    simp only [Option.not_mem_none, false_implies, implies_true, true_and, Option.none_or]
    constructor
    · rintro ⟨⟩
      rfl
    · rintro rfl
      rfl
  | some pd =>
    simp only [setOperator_eq_ok_iff, Option.mem_some_iff, forall_eq', Option.some_or, and_assoc,
      eq_comm (a := w)]

/-- **Why layers are not wired up**, if those of the operator are among them. -/
theorem exists_of_ofLayers_eq_error {e : Failure}
    (h : ofLayers layers background porterDuff width height = .error e)
    (henabled : ∀ l ∈ layers, l.enabled = true)
    (hoperands : ∀ pd ∈ porterDuff,
      (∃ l ∈ layers, l.pipe = pd.srcPipe) ∧ ∃ l ∈ layers, l.pipe = pd.dstPipe) :
    ∃ l ∈ layers, ¬ (l.pipe.toNat < subframeCount ∧ l.depth.toNat < slotCount) ∧
      e = .rejected (.layerIndex l.pipe.toNat l.depth.toNat) := by
  rw [ofLayers, List.filter_eq_self.mpr henabled, Outcome.bind_eq_error_iff] at h
  rcases h with h | ⟨wired, hwired, h⟩
  · exact exists_of_foldlM_eq_error h
  · -- once the layers are there, so are those of the operator
    cases porterDuff with
    | none => cases h
    | some pd =>
      obtain ⟨hsrc, hdst⟩ := hoperands pd rfl
      have hok := setOperator_eq_ok_iff.mpr
        ⟨(hasLayer_foldlM_iff hwired _).mpr (.inl hsrc),
          (hasLayer_foldlM_iff hwired _).mpr (.inl hdst), rfl⟩
      dsimp only at h
      rw [hok] at h
      cases h

theorem sound_of_ofLayers (h : ofLayers layers background porterDuff width height = .ok w) :
    w.Sound := by
  obtain ⟨wired, hwired, -, rfl⟩ := ofLayers_eq_ok_iff.mp h
  intro s hs
  exact sound_of_foldlM (sound_empty background width height) hwired s hs

/-- Both layers of the operator are **among the layers wired up**. -/
theorem exists_pipe_of_ofLayers (h : ofLayers layers background porterDuff width height = .ok w)
    {pd : PorterDuff} (hpd : pd ∈ porterDuff) {pipe : UInt8}
    (hpipe : pipe = pd.srcPipe ∨ pipe = pd.dstPipe) : ∃ l ∈ layers, l.pipe = pipe := by
  obtain ⟨wired, hwired, hoperands, -⟩ := ofLayers_eq_ok_iff.mp h
  have hhas : wired.hasLayer pipe = true := by
    rcases hpipe with rfl | rfl
    · exact (hoperands pd hpd).1
    · exact (hoperands pd hpd).2
  rcases (hasLayer_foldlM_iff hwired pipe).mp hhas with ⟨l, hl, hlp⟩ | hempty
  · exact ⟨l, List.mem_of_mem_filter hl, hlp⟩
  · rw [hasLayer_empty] at hempty
    cases hempty

end OfLayers

end Wiring

end Blitter
