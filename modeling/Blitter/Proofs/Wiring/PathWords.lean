import Blitter.Proofs.Register.Cell
import Blitter.Proofs.Wiring

/-!
# Path words, field by field

A word of the path has three fields, and a layer that is wired up is inserted into them: its pipe
into the slot of its depth, its pipe once more and its blending into the slot above the pipe. Either
may be the slot that another layer has been inserted into before. Fields are cells of their own, so
that each is read as what was last inserted into it, whatever has become of the others in the
meantime (`Wiring.readsAs_path_of_ofLayers`).
-/

namespace Blitter

/-- The **fields of a path word**: the pipe whose layer is in the slot, the pipe whose blending the
slot sets, and whether that layer is premultiplied. -/
def Register.pathFields : List Field := [pathLayer, pathBlend, .flag 8]

/-- The pipe of the last layer with the property, or the unused index 7 if no layer has it. -/
def lastPipe (layers : List Layer) (property : Layer → Bool) : UInt32 :=
  (layers.reverse.find? property).elim 7 fun l => l.pipe.toUInt32

theorem lastPipe_concat (layers : List Layer) (l : Layer) (property : Layer → Bool) :
    lastPipe (layers ++ [l]) property =
      if property l then l.pipe.toUInt32 else lastPipe layers property := by
  rw [lastPipe, List.reverse_append, List.reverse_singleton, List.singleton_append,
    List.find?_cons]
  cases property l <;> rfl

namespace Wiring

/-- What the layers **put into the fields** of a slot. -/
def pathValues (layers : List Layer) (z : Nat) : List UInt32 :=
  [ lastPipe layers fun l => l.depth.toNat = z,
    lastPipe layers fun l => l.pipe.toNat + 1 = z,
    (layers.any fun l => l.pipe.toNat + 1 = z ∧ l.blend = .premultiplied).toUInt32 ]

/-- The slots of the path are **read as** what the layers put into them. -/
def PathReadsAs (w : Wiring) (layers : List Layer) : Prop :=
  ∀ z (hz : z < slotCount), Field.ReadsAs w.path[z] Register.pathFields (pathValues layers z)

variable {w w' : Wiring} {l : Layer} {layers before : List Layer}

theorem pathValues_concat (layers : List Layer) (l : Layer) (z : Nat) :
    pathValues (layers ++ [l]) z =
      [ if l.depth.toNat = z then l.pipe.toUInt32 else lastPipe layers fun l => l.depth.toNat = z,
        if l.pipe.toNat + 1 = z then l.pipe.toUInt32
          else lastPipe layers fun l => l.pipe.toNat + 1 = z,
        if l.pipe.toNat + 1 = z ∧ l.blend = .premultiplied then 1
          else (layers.any fun l => l.pipe.toNat + 1 = z ∧ l.blend = .premultiplied).toUInt32 ] := by
  have hflag (b : Bool) (p : Prop) [Decidable p] :
      (b || decide p).toUInt32 = if p then 1 else b.toUInt32 := by
    by_cases hp : p
    · rw [decide_eq_true hp, Bool.or_true, if_pos hp]
      rfl
    · rw [decide_eq_false hp, Bool.or_false, if_neg hp]
  simp only [pathValues, lastPipe_concat, decide_eq_true_eq, List.any_append, List.any_cons,
    List.any_nil, Bool.or_false, hflag]

/-- The word that a slot holds after a layer has been wired up: the layer is **inserted** where it
belongs. -/
theorem getElem_path_addAt (w : Wiring) (l : Layer) (pipe : Fin subframeCount)
    (depth : Fin slotCount) {z : Nat} (hz : z < slotCount) :
    (w.addAt l pipe depth).path[z] =
      let number := UInt32.ofNat pipe
      let named := if depth.val = z then Register.pathLayer.insert w.path[z] number else w.path[z]
      let blended := if pipe.val + 1 = z then Register.pathBlend.insert named number else named
      if pipe.val + 1 = z ∧ l.blend = .premultiplied then (Field.flag 8).insert blended 1
      else blended := by
  have hpremultiplied (word : UInt32) :
      (Field.flag 8).insert word 1 = word ||| Register.pathPremultiplied :=
    Field.insert_flag 8 word
  have hnamed (y : Nat) (hy : y < slotCount) :
      (if depth.val = y then Register.pathLayer.insert w.path[depth.val] (.ofNat pipe)
        else w.path[y]) =
      if depth.val = y then Register.pathLayer.insert w.path[y] (.ofNat pipe) else w.path[y] := by
    split
    case isTrue heq =>
      subst heq
      rfl
    case isFalse => rfl
  simp only [addAt, Vector.getElem_set, Fin.getElem_fin, Fin.val_succ, hpremultiplied, hnamed]
  by_cases hslot : pipe.val + 1 = z
  · subst hslot
    simp only [if_true, true_and]
  · simp only [hslot, if_false, false_and]

theorem pathReadsAs_empty (background : Option UInt32) (width height : UInt32) :
    (empty background width height).PathReadsAs [] := by
  intro z hz
  have hunused : Register.pathUnused = Field.packed Register.pathFields [7, 7, 0] := by decide
  rw [empty, Vector.getElem_replicate, hunused]
  exact Field.readsAs_packed (by decide) rfl

/-- A layer is inserted into the fields that are its own, and the others keep what they have. -/
theorem PathReadsAs.add (h : w.PathReadsAs before) (hw : w.add l = .ok w') :
    w'.PathReadsAs (before ++ [l]) := by
  obtain ⟨hp, hd, rfl⟩ := add_eq_ok_iff.mp hw
  intro z hz
  have hfields : Field.AreApart Register.pathFields := by decide
  have hnumber : UInt32.ofNat l.pipe.toNat = l.pipe.toUInt32 := UInt32.ofNat_uInt8ToNat _
  rw [getElem_path_addAt, pathValues_concat]
  simp only [hnumber]
  -- one field after the other, each under the condition that the layer belongs there
  have hnamed := (h z hz).insert_ite hfields (i := 0) (by decide) (l.depth.toNat = z)
    l.pipe.toUInt32
  have hblended := hnamed.insert_ite hfields (i := 1) (by decide) (l.pipe.toNat + 1 = z)
    l.pipe.toUInt32
  have hdone := hblended.insert_ite hfields (i := 2) (by decide)
    (l.pipe.toNat + 1 = z ∧ l.blend = .premultiplied) 1
  exact hdone

theorem PathReadsAs.foldlM (h : w.PathReadsAs before) (hw : layers.foldlM Wiring.add w = .ok w') :
    w'.PathReadsAs (before ++ layers) := by
  induction layers generalizing before w with
  | nil =>
    cases hw
    rw [List.append_nil]
    exact h
  | cons l layers ih =>
    obtain ⟨v, hv, hw⟩ := Outcome.bind_eq_ok_iff.mp hw
    have hrest := ih (h.add hv) hw
    rw [List.append_assoc, List.singleton_append] at hrest
    exact hrest

/-- **Path words are read field by field**, whichever layers are wired up: each field holds what
the last layer that it is for has put into it. -/
theorem readsAs_path_of_ofLayers {background : Option UInt32} {porterDuff : Option PorterDuff}
    {width height : UInt32} (h : ofLayers layers background porterDuff width height = .ok w) :
    w.PathReadsAs (layers.filter Layer.enabled) := by
  obtain ⟨wired, hwired, -, rfl⟩ := ofLayers_eq_ok_iff.mp h
  have hpath := (pathReadsAs_empty background width height).foldlM hwired
  exact hpath

end Wiring

end Blitter
