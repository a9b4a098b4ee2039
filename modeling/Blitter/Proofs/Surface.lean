import Blitter.Proofs.Addresses
import Blitter.Proofs.Format.Alignment
import Blitter.Proofs.Format.Catalog
import Blitter.Surface
import Mathlib.Algebra.Group.Nat.Even
import Mathlib.Tactic.Ring

/-!
# Room for the samples of a surface

The planes of a surface lie back to back: for each of them some rows of some whole bytes are set
aside (`PixelLayout.setAside`), and the next one starts where they end. `PixelLayout.HasRoom` is
what its samples need: a row has room for every sample that one of its pixels shares, and a plane
ends where its last row of samples does.

The bytes of a row are counted by column and the rows are rounded down, so that a surface with an
odd side may be short of room. `PixelLayout.hasRoom_iff` says when it is.
-/

namespace Blitter

namespace PixelLayout

/-! ### What samples need -/

section Sizes

variable (l : PixelLayout) (width height : Nat) (plane : Nat)

/-- Samples of `plane` side by side, the last of which may have fewer columns than the others. -/
def samplesAcross : Nat := (width + l.planeColumns plane - 1) / l.planeColumns plane

/-- Rows of samples of `plane`, the last of which may have fewer rows of pixels. -/
def samplesDown : Nat := (height + l.planeRows plane - 1) / l.planeRows plane

/-- Bytes that a row of samples takes. -/
def rowBytes : Nat := (l.samplesAcross width plane * l.sampleBits plane + 7) / 8

/-- Bytes from a row of samples to the next, where planes lie back to back. -/
def rowStep : Nat := (width * l.planeBits plane + 7) / 8

/-- Bytes from a plane to the next, where planes lie back to back. -/
def setAside : Nat := l.rowStep width plane * (height / l.planeRows plane)

/-- Bytes from the first of the planes to what is behind the last. -/
def totalAside (planes : List (Fin 3)) : Nat :=
  (planes.map fun p : Fin 3 => l.setAside width height p).sum

theorem totalAside_cons (p : Fin 3) (ps : List (Fin 3)) :
    l.totalAside width height (p :: ps) =
      l.setAside width height p + l.totalAside width height ps := by
  rw [totalAside, List.map_cons, List.sum_cons, totalAside]

theorem totalAside_append (ps qs : List (Fin 3)) :
    l.totalAside width height (ps ++ qs) =
      l.totalAside width height ps + l.totalAside width height qs := by
  rw [totalAside, List.map_append, List.sum_append, totalAside, totalAside]

/-- Only where a row of samples is **incomplete** are there more of them than whole ones. -/
theorem samplesDown_le_iff {l : PixelLayout} {height plane : Nat} :
    l.samplesDown height plane ≤ height / l.planeRows plane ↔ l.planeRows plane ∣ height := by
  have hpos := l.planeRows_pos plane
  rw [samplesDown, Nat.le_div_iff_mul_le hpos]
  constructor
  · intro hle
    have hlt := Nat.lt_div_mul_add hpos (a := height + l.planeRows plane - 1)
    have heq :
        (height + l.planeRows plane - 1) / l.planeRows plane * l.planeRows plane = height := by
      omega
    exact ⟨_, heq.symm.trans (Nat.mul_comm _ _)⟩
  · rintro ⟨rows, rfl⟩
    refine (Nat.mul_le_mul_right _ (Nat.le_of_lt_succ (Nat.div_lt_of_lt_mul ?_))).trans_eq
      (Nat.mul_comm rows _)
    rw [Nat.mul_succ]
    omega

end Sizes

/-- Planes at these addresses **have room for all samples** of a surface, and none is in another's
room. -/
structure HasRoom (l : PixelLayout) (width height : Nat) (address : Vector UInt64 3)
    (stride : Vector UInt32 3) : Prop where
  row : ∀ p ∈ l.planes, l.rowBytes width p ≤ (stride.get p).toNat
  apart : ∀ p ∈ l.planes, ∀ q ∈ l.planes, p < q →
    (address.get p).toNat + (stride.get p).toNat * l.samplesDown height p ≤ (address.get q).toNat

/-- No row ends **within a sample** of more than a byte, and no plane but the last one within a row
of samples. -/
structure EndsWhole (l : PixelLayout) (width height : Nat) : Prop where
  across : ∀ p ∈ l.planes, l.planeColumns p ∣ width ∨ l.sampleBits p = 8
  down : ∀ p ∈ l.planes, ∀ q ∈ l.planes, p < q → l.planeRows p ∣ height

/-- The lengths and addresses of the planes **fit their words**. -/
structure FitsWords (l : PixelLayout) (base : UInt64) (width height : UInt32)
    (planes : List (Fin 3)) : Prop where
  row : ∀ p ∈ planes, width.toNat * l.planeBits p < 2 ^ 32
  buffer : base.toNat + l.totalAside width.toNat height.toNat planes < 2 ^ 64

/-! ### Placing one plane after the other -/

section Place

variable {l : PixelLayout} {width height : UInt32} {p : Fin 3} {ps : List (Fin 3)}
  {next : UInt64} {placed planes : Planes}

/-- **One step**: the plane is placed, and the others after it. -/
theorem place_cons_eq_ok_iff :
    l.place width height (p :: ps) next placed = .ok planes ↔
      ∃ stride after, width.toNat * l.planeBits p < 2 ^ 32 ∧
        stride.toNat = l.rowStep width.toNat p ∧
        after.toNat = next.toNat + l.setAside width.toNat height.toNat p ∧
        l.place width height ps after
          ⟨placed.address.set p next p.isLt, placed.stride.set p stride p.isLt⟩ = .ok planes := by
  have hstride {bits : UInt32} (hbits : bits.toNat = width.toNat * l.planeBits p) :
      (UInt32.ofNat ((bits.toNat + 7) / 8)).toNat = l.rowStep width.toNat p := by
    have hlt := bits.toNat_lt
    have hbytes : (bits.toNat + 7) / 8 < 2 ^ 32 := by omega
    rw [UInt32.toNat_ofNat_of_lt' hbytes, hbits]
    rfl
  rw [place, Outcome.bind_eq_ok_iff]
  constructor
  · rintro ⟨bits, hbits, h⟩
    obtain ⟨after, hafter, h⟩ := Outcome.bind_eq_ok_iff.mp h
    have hbits := fit32_eq_ok_iff.mp hbits
    have hafter := fit64_eq_ok_iff.mp hafter
    rw [hstride hbits] at hafter
    exact ⟨_, after, hbits ▸ bits.toNat_lt, hstride hbits, hafter, h⟩
  · rintro ⟨stride, after, hlt, hs, hafter, h⟩
    have hbits := UInt32.toNat_ofNat_of_lt' hlt
    obtain rfl := UInt32.toNat_inj.mp (hs.trans (hstride hbits).symm)
    refine ⟨_, fit32_eq_ok_iff.mpr hbits, Outcome.bind_eq_ok_iff.mpr ⟨after, ?_, h⟩⟩
    rw [fit64_eq_ok_iff, hs]
    exact hafter

/-- Planes are placed exactly if nothing leaves its word. -/
theorem exists_place_iff :
    (∃ planes, l.place width height ps next placed = .ok planes) ↔
      l.FitsWords next width height ps := by
  induction ps generalizing next placed with
  | nil => exact iff_of_true ⟨placed, rfl⟩ ⟨nofun, next.toNat_lt⟩
  | cons p ps ih =>
    constructor
    · rintro ⟨planes, h⟩
      obtain ⟨stride, after, hlt, -, hafter, h⟩ := place_cons_eq_ok_iff.mp h
      have hfits := ih.mp ⟨planes, h⟩
      refine ⟨List.forall_mem_cons.mpr ⟨hlt, hfits.row⟩, ?_⟩
      rw [totalAside_cons, ← Nat.add_assoc, ← hafter]
      exact hfits.buffer
    · rintro ⟨hrow, hbuffer⟩
      obtain ⟨hlt, hrow⟩ := List.forall_mem_cons.mp hrow
      rw [totalAside_cons, ← Nat.add_assoc] at hbuffer
      have hstride : l.rowStep width.toNat p < 2 ^ 32 := by
        unfold rowStep
        omega
      have hnext : next.toNat + l.setAside width.toNat height.toNat p < 2 ^ 64 := by omega
      have hafter := UInt64.toNat_ofNat_of_lt' hnext
      obtain ⟨planes, h⟩ := (@ih (UInt64.ofNat _)
        ⟨placed.address.set p next p.isLt, placed.stride.set p (UInt32.ofNat _) p.isLt⟩).mpr
          ⟨hrow, hafter.symm ▸ hbuffer⟩
      exact ⟨planes, place_cons_eq_ok_iff.mpr
        ⟨_, _, hlt, UInt32.toNat_ofNat_of_lt' hstride, hafter, h⟩⟩

/-- Planes that are not listed stay where they are. -/
theorem get_place_of_notMem (h : l.place width height ps next placed = .ok planes) {q : Fin 3}
    (hq : q ∉ ps) :
    planes.address.get q = placed.address.get q ∧ planes.stride.get q = placed.stride.get q := by
  induction ps generalizing next placed with
  | nil =>
    cases h
    exact ⟨rfl, rfl⟩
  | cons p ps ih =>
    obtain ⟨hne, hq⟩ := List.ne_and_not_mem_of_not_mem_cons hq
    obtain ⟨stride, after, -, -, -, h⟩ := place_cons_eq_ok_iff.mp h
    obtain ⟨haddress, hstride⟩ := ih h hq
    rw [haddress, hstride]
    exact ⟨get_set_plane_ne _ hne.symm p.isLt _, get_set_plane_ne _ hne.symm p.isLt _⟩

/-- A plane starts **behind what is set aside** for the planes before it. -/
theorem get_place (h : l.place width height ps next placed = .ok planes) (hnodup : ps.Nodup)
    {before after : List (Fin 3)} (hps : ps = before ++ p :: after) :
    (planes.address.get p).toNat =
        next.toNat + l.totalAside width.toNat height.toNat before ∧
      (planes.stride.get p).toNat = l.rowStep width.toNat p := by
  subst hps
  induction before generalizing next placed with
  | nil =>
    obtain ⟨hp, -⟩ := List.nodup_cons.mp hnodup
    obtain ⟨stride, next', -, hstride, -, h⟩ := place_cons_eq_ok_iff.mp h
    obtain ⟨haddress, hgot⟩ := get_place_of_notMem h hp
    rw [haddress, hgot, get_set_plane, get_set_plane]
    exact ⟨rfl, hstride⟩
  | cons q before ih =>
    obtain ⟨stride, next', -, -, hnext, h⟩ := place_cons_eq_ok_iff.mp h
    obtain ⟨haddress, hstride⟩ := ih h (List.nodup_cons.mp hnodup).2
    rw [haddress, hnext, totalAside_cons, ← Nat.add_assoc]
    exact ⟨rfl, hstride⟩

end Place

/-! ### The planes of a surface -/

section Surface

variable {l : PixelLayout} {base : UInt64} {width height : UInt32} {planes : Planes} {p q : Fin 3}

/-- A later plane starts behind what is set aside for the earlier one **and those between**. -/
theorem toNat_address_backToBack (h : l.backToBack base width height = .ok planes)
    {before between after : List (Fin 3)}
    (hplanes : l.planes = before ++ p :: (between ++ q :: after)) :
    (planes.address.get q).toNat =
      (planes.address.get p).toNat + l.setAside width.toNat height.toNat p +
        l.totalAside width.toNat height.toNat between := by
  have hsplit : l.planes = (before ++ p :: between) ++ q :: after := by
    rw [hplanes, List.append_assoc, List.cons_append]
  obtain ⟨hp, -⟩ := get_place h l.nodup_planes hplanes
  obtain ⟨hq, -⟩ := get_place h l.nodup_planes hsplit
  rw [hq, hp, totalAside_append, totalAside_cons]
  omega

theorem toNat_stride_backToBack (h : l.backToBack base width height = .ok planes)
    (hp : p ∈ l.planes) : (planes.stride.get p).toNat = l.rowStep width.toNat p := by
  obtain ⟨before, after, hplanes⟩ := List.append_of_mem hp
  exact (get_place h l.nodup_planes hplanes).2

/-- The planes in the order of the list: an earlier one, those between, and a later one. -/
theorem exists_planes_eq (hp : p ∈ l.planes) (hq : q ∈ l.planes) (hlt : p < q) :
    ∃ before between after, l.planes = before ++ p :: (between ++ q :: after) := by
  obtain ⟨before, rest, hplanes⟩ := List.append_of_mem hp
  have hsorted := l.pairwise_planes
  rw [hplanes, List.pairwise_append] at hsorted
  rw [hplanes, List.mem_append, List.mem_cons] at hq
  rcases hq with hq | rfl | hq
  · exact absurd (hsorted.2.2 q hq p List.mem_cons_self) (Fin.not_lt.mpr (Fin.le_of_lt hlt))
  · exact absurd hlt (Fin.lt_irrefl q)
  · obtain ⟨between, after, rfl⟩ := List.append_of_mem hq
    exact ⟨before, between, after, hplanes⟩

end Surface

section Catalog

variable {f : Format} (hf : f ∈ Format.catalog) {base : UInt64} {width height : UInt32}
  {planes : Planes} (h : f.layout.backToBack base width height = .ok planes)
include hf

/-- What is counted by column is enough for **whole samples**, or for a sample of one byte. -/
theorem rowBytes_le_rowStep_iff {p : Fin 3} (hp : p ∈ f.layout.planes) (width : Nat) :
    f.layout.rowBytes width p ≤ f.layout.rowStep width p ↔
      f.layout.planeColumns p ∣ width ∨ f.layout.sampleBits p = 8 := by
  obtain ⟨hbits, ⟨bytes, hbytes⟩, hpos⟩ := sampleBits_eq hf hp
  unfold rowBytes rowStep samplesAcross
  rcases f.layout.planeColumns_eq p with hone | htwo
  · rw [hone, Nat.one_mul] at hbits
    rw [hone, hbits, Nat.add_sub_cancel, Nat.div_one]
    exact iff_of_true (Nat.le_refl _) (.inl (Nat.one_dvd _))
  · rw [htwo] at hbits ⊢
    have hcolumn : f.layout.planeBits p = 4 * bytes := by omega
    rw [hbytes, hcolumn]
    rcases Nat.even_or_odd' width with ⟨pairs, rfl | rfl⟩
    · have hpairs : (2 * pairs + 2 - 1) / 2 = pairs := by omega
      have hbits : 2 * pairs * (4 * bytes) = pairs * (8 * bytes) := by ring
      rw [hpairs, hbits]
      exact iff_of_true (Nat.le_refl _) (.inl (Nat.dvd_mul_right _ _))
    · have hpairs : (2 * pairs + 1 + 2 - 1) / 2 = pairs + 1 := by omega
      have hsamples : (pairs + 1) * (8 * bytes) = 8 * (pairs * bytes) + 8 * bytes := by ring
      have hcolumns : (2 * pairs + 1) * (4 * bytes) = 8 * (pairs * bytes) + 4 * bytes := by ring
      rw [hpairs, hsamples, hcolumns]
      omega

include h

theorem apart_iff (hw : 0 < width.toNat) :
    (∀ p ∈ f.layout.planes, ∀ q ∈ f.layout.planes, p < q →
      (planes.address.get p).toNat +
          (planes.stride.get p).toNat * f.layout.samplesDown height.toNat p ≤
        (planes.address.get q).toNat) ↔
      ∀ p ∈ f.layout.planes, ∀ q ∈ f.layout.planes, p < q →
        f.layout.planeRows p ∣ height.toNat := by
  have hset {p : Fin 3} (hp : p ∈ f.layout.planes) :
      f.layout.setAside width.toNat height.toNat p =
        (planes.stride.get p).toNat * (height.toNat / f.layout.planeRows p) := by
    rw [toNat_stride_backToBack h hp, setAside]
  constructor
  · intro hapart p hp q hq hlt
    -- the room for a plane ends where the very next one starts
    obtain ⟨before, next, after, hplanes⟩ : ∃ before next after,
        f.layout.planes = before ++ p :: ([] ++ next :: after) := by
      obtain ⟨before, between, after, hplanes⟩ := exists_planes_eq hp hq hlt
      cases between with
      | nil => exact ⟨before, q, after, hplanes⟩
      | cons next between => exact ⟨before, next, between ++ q :: after, hplanes⟩
    have hnext : next ∈ f.layout.planes := by
      rw [hplanes]
      simp
    have hlt : p < next := by
      have hsorted := f.layout.pairwise_planes
      rw [hplanes, List.pairwise_append] at hsorted
      exact (List.pairwise_cons.mp hsorted.2.1).1 next List.mem_cons_self
    have hroom := hapart p hp next hnext hlt
    rw [toNat_address_backToBack h hplanes, hset hp] at hroom
    have hstride : 0 < (planes.stride.get p).toNat := by
      obtain ⟨-, -, hbits⟩ := sampleBits_eq hf hp
      rw [toNat_stride_backToBack h hp, rowStep]
      have := Nat.mul_pos hw hbits
      omega
    rw [← f.layout.samplesDown_le_iff]
    exact Nat.le_of_mul_le_mul_left (Nat.le_of_add_le_add_left hroom) hstride
  · intro hrows p hp q hq hlt
    obtain ⟨before, between, after, hplanes⟩ := exists_planes_eq hp hq hlt
    have hdown := f.layout.samplesDown_le_iff.mpr (hrows p hp q hq hlt)
    rw [toNat_address_backToBack h hplanes, hset hp]
    have := Nat.mul_le_mul_left (planes.stride.get p).toNat hdown
    omega

/-- **When planes that lie back to back have room** for all samples of the surface. -/
theorem hasRoom_iff (hw : 0 < width.toNat) :
    f.layout.HasRoom width.toNat height.toNat planes.address planes.stride ↔
      f.layout.EndsWhole width.toNat height.toNat := by
  have hrow : (∀ p ∈ f.layout.planes,
      f.layout.rowBytes width.toNat p ≤ (planes.stride.get p).toNat) ↔
        ∀ p ∈ f.layout.planes,
          f.layout.planeColumns p ∣ width.toNat ∨ f.layout.sampleBits p = 8 := by
    refine forall₂_congr fun p hp => ?_
    rw [toNat_stride_backToBack h hp]
    exact rowBytes_le_rowStep_iff hf hp _
  constructor
  · intro hroom
    exact ⟨hrow.mp hroom.row, (apart_iff hf h hw).mp hroom.apart⟩
  · intro hends
    exact ⟨hrow.mpr hends.across, (apart_iff hf h hw).mpr hends.down⟩

end Catalog

end PixelLayout

/-! ### Layers and outputs in one buffer -/

section WithBuffer

variable {f : Format} (hf : f ∈ Format.catalog) {base : UInt64} {width height : UInt32}
include hf

theorem Layer.withBuffer_eq {l : Layer} (hl : l.format = f.code) :
    l.withBuffer base width height =
      (fun planes : Planes => { l with address := planes.address, stride := planes.stride }) <$>
        f.layout.backToBack base width height := by
  unfold withBuffer
  rw [hl, Format.format?_code_of_mem hf]
  rfl

theorem Output.withBuffer_eq {o : Output} (ho : o.format = f.code)
    (hsize : o.memorySize = (width, height)) :
    o.withBuffer base =
      (fun planes : Planes => { o with address := planes.address, stride := planes.stride }) <$>
        f.layout.backToBack base width height := by
  unfold withBuffer
  rw [ho, Format.format?_code_of_mem hf, hsize]
  rfl

/-- Whatever is laid out has the room that its planes have. -/
theorem PixelLayout.map_backToBack_hasRoom_iff {α : Type} {laid : Planes → α}
    (planes : α → Planes) (hlaid : ∀ ps, planes (laid ps) = ps) (hw : 0 < width.toNat) :
    ((∃ a, laid <$> f.layout.backToBack base width height = .ok a) ↔
      f.layout.FitsWords base width height f.layout.planes) ∧
    ∀ a, laid <$> f.layout.backToBack base width height = .ok a →
      (f.layout.HasRoom width.toNat height.toNat (planes a).address (planes a).stride ↔
        f.layout.EndsWhole width.toNat height.toNat) := by
  constructor
  · refine Iff.trans ?_ (@exists_place_iff _ _ _ _ _ .zero)
    constructor
    · rintro ⟨a, h⟩
      obtain ⟨ps, hps, -⟩ := Outcome.map_eq_ok_iff.mp h
      exact ⟨ps, hps⟩
    · rintro ⟨ps, hps⟩
      exact ⟨laid ps, Outcome.map_eq_ok_iff.mpr ⟨ps, hps, rfl⟩⟩
  · intro a h
    obtain ⟨ps, hps, rfl⟩ := Outcome.map_eq_ok_iff.mp h
    rw [hlaid]
    exact hasRoom_iff hf hps hw

end WithBuffer

/-- **Surfaces in one buffer.** A layer's source, or an output of whatever rotation, is laid out
exactly if its planes fit their words. Then every plane has a stride of no less than a row of its
samples and the next one starts behind its last row of samples, exactly if the surface ends
whole. -/
theorem Format.withBuffer_hasRoom_iff {f : Format} (hf : f ∈ catalog) (base : UInt64)
    {width height : UInt32} (hw : 0 < width.toNat) :
    (∀ l : Layer, l.format = f.code →
      ((∃ l', l.withBuffer base width height = .ok l') ↔
        f.layout.FitsWords base width height f.layout.planes) ∧
      ∀ l', l.withBuffer base width height = .ok l' →
        (f.layout.HasRoom width.toNat height.toNat l'.address l'.stride ↔
          f.layout.EndsWhole width.toNat height.toNat)) ∧
    ∀ o : Output, o.format = f.code → o.memorySize = (width, height) →
      ((∃ o', o.withBuffer base = .ok o') ↔
        f.layout.FitsWords base width height f.layout.planes) ∧
      ∀ o', o.withBuffer base = .ok o' →
        (f.layout.HasRoom width.toNat height.toNat o'.address o'.stride ↔
          f.layout.EndsWhole width.toNat height.toNat) := by
  constructor
  · intro l hl
    rw [Layer.withBuffer_eq hf hl]
    exact PixelLayout.map_backToBack_hasRoom_iff hf
      (fun l' : Layer => ⟨l'.address, l'.stride⟩) (fun _ => rfl) hw
  · intro o ho hsize
    rw [Output.withBuffer_eq hf ho hsize]
    exact PixelLayout.map_backToBack_hasRoom_iff hf
      (fun o' : Output => ⟨o'.address, o'.stride⟩) (fun _ => rfl) hw

/-- A turned output of 32 columns and 64 rows in memory. -/
def turnedSurface : Output :=
  { format := Format.nv12.code, width := 64, height := 32, rotation := .rot90 }

/-- Both sides are even. -/
theorem Format.withBuffer_hasRoom_iff_turnedSurface :
    nv12 ∈ catalog ∧ 0 < (32 : UInt32).toNat ∧ turnedSurface.memorySize = (32, 64) ∧
      ∃ o, turnedSurface.withBuffer 0x1000 = .ok o ∧
        nv12.layout.HasRoom 32 64 o.address o.stride := by
  obtain ⟨-, houtput⟩ := @withBuffer_hasRoom_iff _ nv12_mem_catalog 0x1000 32 64 (by decide)
  obtain ⟨hfits, hroom⟩ := houtput turnedSurface rfl rfl
  obtain ⟨o, ho⟩ := hfits.mpr ⟨by decide, by decide⟩
  exact ⟨nv12_mem_catalog, by decide, rfl, o, ho, (hroom o ho).mpr ⟨by decide, by decide⟩⟩

/-- Three planes of brightness and of either color, with a sample for two columns and two rows. -/
def Format.yuv420 : Format :=
  ⟨.ofLetters 'Y' 'U' '1' '2', "YUV420", .yuv8 0 .quarter .planar 0, true⟩

/-- An output with a last row of samples that a single row of pixels has. -/
def oddSurface : Output := { format := Format.yuv420.code, width := 5, height := 5 }

/-- Of three rows of three samples there is **room for two only**: the last plane starts where the
third one is. -/
theorem not_hasRoom_oddSurface :
    Format.yuv420 ∈ Format.catalog ∧
      Format.yuv420.layout.FitsWords 0x1000 5 5 Format.yuv420.layout.planes ∧
      ∃ o, oddSurface.withBuffer 0x1000 = .ok o ∧
        o.address = forPlanes 0x1000 0x1019 0x101F ∧ o.stride = forPlanes 5 3 3 ∧
        ¬ Format.yuv420.layout.HasRoom 5 5 o.address o.stride := by
  refine ⟨by decide, ⟨by decide, by decide⟩, _, rfl, by decide, by decide, ?_⟩
  intro hroom
  have hapart := hroom.apart 1 (by decide) 2 (by decide) (by decide)
  exact absurd hapart (by decide)

end Blitter
