import Blitter.Proofs.InWords.Pass
import Blitter.Proofs.Register.Encoding
import Blitter.Proofs.Wiring.PathWords

/-!
# Words read field by field

Registers of the engine are put together from fields: the layout of pixels, how a channel bursts,
how a pipe, a sub-frame, the compositor and the write pipe are set up. In each of these words the
fields are apart, and a single bit that is switched on and off is a field as well. So every word of
a program is read field by field, whatever is put into it (`Register.WordsReadAs`). A value that is
too long for its field loses its upper bits, and never gets into another field.

These are cases of the laws of fields, which hold of any fields of a word
(`Field.isCell_and_independent_and_readsAs`).
-/

namespace Blitter

open Blitter.Field

namespace Register

/-! ### The fields of the words -/

/-- The fields of a **pixel layout**; the single bits are those of `layoutYuv`, `layoutBigEndian`
and `layoutAlphaIgnored`. -/
def layoutFields : List Field :=
  [ layoutA, layoutY, layoutU, layoutV, layoutSwap, layoutChroma, layoutPlanarity, .flag 19,
    .flag 24, .flag 25 ]

/-- The fields of a channel's **burst word**. -/
def burstFields : List Field := [burstLength, burstPriority, .flag 31]

/-- The fields of a graphics pipe's **control word**. -/
def pipeFields : List Field := [.flag 0, pipeRotation, .flag 8, .flag 9, .flag 10, .flag 11]

/-- The fields of a pipe's **frame word**. -/
def frameFields : List Field := [framePlanes, frameFetchMode, frameCompression]

/-- The fields of a pipe's **tile control word**. -/
def tileFields : List Field := [tileWidth, tileHeight]

/-- The fields of the word that switches a pipe's **scaling** on and off. -/
def scaleFields : List Field := [.flag 0, .flag 1]

/-- The fields of a sub-frame's **control word**. -/
def subframeFields : List Field := [.flag 1, .flag 2, .flag 0]

/-- The fields of the **operator word**. -/
def operatorFields : List Field := [.flag 0, operatorSource, operatorTarget, operatorMode]

/-- The fields of the compositor's **control word**. -/
def mixFields : List Field := [.flag 0, .flag 1]

/-- The fields of the write pipe's **control word**. -/
def outFields : List Field := [.flag 0, outRotation, outPlanes]

/-- The fields of the word that says **what is to be done**. -/
def modeFields : List Field := [workOperation, .flag 4]

/-- All words of a program that are put together from fields **are read field by field**. -/
structure WordsReadAs : Prop where
  layout : ∀ l : PixelLayout, ReadsAs l.toWord layoutFields
    [ l.a.toUInt32, l.y.toUInt32, l.u.toUInt32, l.v.toUInt32, l.swap.toUInt32, l.chroma.code,
      l.planarity.code, l.yuv.toUInt32, l.bigEndian.toUInt32, l.alphaIgnored.toUInt32 ]
  burst : ∀ (a : Allocation) (s : Share), ReadsAs (a.burstWord s) burstFields
    [a.burst.code, s.weight.toUInt32, (decide (0 < s.weight)).toUInt32]
  pipe : ∀ s : Source, ReadsAs (Pipe.controlWord s) pipeFields
    [ 1, s.layer.rotation.code, s.fetch.isTiled.toUInt32, s.fetch.isCompressed.toUInt32,
      s.layout.yuv.toUInt32, (s.layer.scalesX || s.layer.scalesY).toUInt32 ]
  frame : ∀ s : Source, ReadsAs (Pipe.frameWord s) frameFields
    [ .ofNat s.layout.planes.length, s.fetch.mode.code, (s.fetch.compression.getD 0).toUInt32 ]
  tile : ∀ t : TileFetch, ReadsAs t.controlWord tileFields
    [TileFetch.sideCode t.tileWidth, TileFetch.sideCode t.tileHeight]
  scale : ∀ (p : Pipe) (s : Source), ∃ word, p.put pipeScaleControl word ∈ p.scaleWrites s ∧
    ReadsAs word scaleFields [s.layer.scalesX.toUInt32, s.layer.scalesY.toUInt32]
  path : ∀ layers background porterDuff width height w,
    Wiring.ofLayers layers background porterDuff width height = .ok w →
      w.PathReadsAs (layers.filter Layer.enabled)
  subframe : ∀ l : Layer, ReadsAs (Subframe.ofLayer l).control subframeFields
    [(decide (l.blend = .none)).toUInt32, l.colorKey.isSome.toUInt32, 1]
  operator : ∀ pd : PorterDuff, ReadsAs (Wiring.operatorWord (some pd)) operatorFields
    [1, pd.srcPipe.toUInt32, pd.dstPipe.toUInt32, pd.mode.code]
  mix : ∀ w : Wiring, ∃ word, put mixControl word ∈ w.writes ∧
    ReadsAs word mixFields [1, w.background.isSome.toUInt32]
  out : ∀ t : Target, ReadsAs t.controlWord outFields
    [1, t.output.rotation.code, .ofNat t.layout.planes.length]
  bypass : ∀ t : Target, ∃ word, put outBypass word ∈ t.writes ∧
    ReadsAs word [outBypassStages] [t.bypass.code]
  mode : ∀ commandId operation isStrip, ∃ word,
    headerWrites commandId operation isStrip =
      [put Register.commandId commandId, put workMode word] ∧
    ReadsAs word modeFields [operation.code, isStrip.toUInt32]

/-- A word is read field by field if it is put together from its fields. -/
theorem readsAs_of_eq {word : UInt32} {fields : List Field} {values : List UInt32}
    (h : word = packed fields values) (hfields : AreApart fields)
    (hlength : fields.length = values.length) : ReadsAs word fields values := by
  rw [h]
  exact readsAs_packed hfields hlength

theorem wordsReadAs : WordsReadAs where
  layout l := by
    refine readsAs_of_eq ?_ (by decide) rfl
    simp only [PixelLayout.toWord, layoutFields, packed, encode_flag, UInt32.or_zero,
      UInt32.or_assoc]
    rfl
  burst a s := by
    refine readsAs_of_eq ?_ (by decide) rfl
    simp only [Allocation.burstWord, burstFields, packed, encode_flag, UInt32.or_zero,
      UInt32.or_assoc, decide_eq_true_eq]
    rfl
  pipe s := by
    refine readsAs_of_eq ?_ (by decide) rfl
    simp only [Pipe.controlWord, pipeFields, packed, encode_flag, UInt32.or_zero, UInt32.or_assoc]
    rfl
  frame s := by
    refine readsAs_of_eq ?_ (by decide) rfl
    simp only [Pipe.frameWord, frameFields, packed, UInt32.or_zero, UInt32.or_assoc]
  tile t := by
    refine readsAs_of_eq ?_ (by decide) rfl
    simp only [TileFetch.controlWord, tileFields, packed, UInt32.or_zero]
  scale p s := by
    refine ⟨_, Pipe.put_scaleControl_mem_scaleWrites, readsAs_of_eq ?_ (by decide) rfl⟩
    simp only [scaleFields, packed, encode_flag, UInt32.or_zero]
    rfl
  path _ _ _ _ _ _ h := Wiring.readsAs_path_of_ofLayers h
  subframe l := by
    refine readsAs_of_eq ?_ (by decide) rfl
    simp only [Subframe.ofLayer, subframeFields, packed, encode_flag, UInt32.or_zero,
      UInt32.or_assoc, decide_eq_true_eq]
    rfl
  operator pd := by
    refine readsAs_of_eq ?_ (by decide) rfl
    simp only [Wiring.operatorWord, operatorFields, packed, UInt32.or_zero, UInt32.or_assoc]
    rfl
  mix w := by
    refine ⟨_, List.mem_append_right _ (List.mem_cons_of_mem _ List.mem_cons_self),
      readsAs_of_eq ?_ (by decide) rfl⟩
    simp only [mixFields, packed, encode_flag, UInt32.or_zero]
    rfl
  out t := by
    refine readsAs_of_eq ?_ (by decide) rfl
    simp only [Target.controlWord, outFields, packed, UInt32.or_zero, UInt32.or_assoc]
    rfl
  bypass t := by
    refine ⟨outBypassStages.encode t.bypass.code, ?_, readsAs_of_eq ?_ (by decide) rfl⟩
    · simp only [Target.writes, List.mem_append, List.mem_cons, true_or, or_true]
    · simp only [packed, UInt32.or_zero]
  mode _ _ _ := by
    refine ⟨_, rfl, readsAs_of_eq ?_ (by decide) rfl⟩
    simp only [modeFields, packed, encode_flag, UInt32.or_zero]
    rfl

end Register

/-- **Fields are cells of their own**: what is inserted into one is read from it as far as it has
room, and from it only, and words that are put together from fields are read field by field. The
shifts and masks that this takes have results for any field, and the words of a program are cases
of it. -/
theorem Field.isCell_and_independent_and_readsAs :
    (∀ f : Field, f.Fits → f.IsCell) ∧
      (∀ f g : Field, f.Apart g → f.Independent g) ∧
      (∀ fields values, AreApart fields → fields.length = values.length →
        ReadsAs (packed fields values) fields values) ∧
      (∀ (f : Field) (word value : UInt32), InWords.encode f value = .ok (f.encode value) ∧
        InWords.decode f word = .ok (f.decode word) ∧
        InWords.insert f word value = .ok (f.insert word value)) ∧
      Register.WordsReadAs :=
  ⟨fun _ hf => hf.isCell, fun _ _ hfg => hfg.independent, fun _ _ => readsAs_packed,
    fun f word value =>
      ⟨InWords.encode_eq f value, InWords.decode_eq f word, InWords.insert_eq f word value⟩,
    Register.wordsReadAs⟩

/-- The longest field: the whole word. -/
def Field.wholeWord : Field := { flag 0 with width := 32 }

/-- A field without bits, at the last place where a field can start. -/
def Field.noBits : Field := { flag 31 with width := 0 }

/-- The longest field and a field without bits are cells as any other, and do not know of each
other; a priority too long for a burst word's four bits leaves the other fields alone. -/
theorem Field.isCell_wholeWord_and_independent_noBits :
    (wholeWord.Fits ∧ wholeWord.IsCell) ∧ (noBits.Fits ∧ noBits.IsCell) ∧
      (wholeWord.Apart noBits ∧ wholeWord.Independent noBits) ∧
      AreApart Register.burstFields ∧
        ReadsAs (packed Register.burstFields [5, 0x13, 1]) Register.burstFields [5, 0x13, 1] := by
  obtain ⟨hcell, hindependent, hpacked, -⟩ := isCell_and_independent_and_readsAs
  exact ⟨⟨by decide, hcell wholeWord (by decide)⟩, ⟨by decide, hcell noBits (by decide)⟩,
    ⟨by decide, hindependent wholeWord noBits (by decide)⟩, by decide,
    hpacked Register.burstFields [5, 0x13, 1] (by decide) rfl⟩

end Blitter
