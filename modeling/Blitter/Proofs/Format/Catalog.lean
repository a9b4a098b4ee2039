import Blitter.Format.Name
import Blitter.Proofs.Outcome

/-!
# Samples of the formats in the catalog

A plane is made of samples: one for every pixel, or one for a group of pixels that share their
color. `planeColumns` and `planeRows` are the sides of such a group and `sampleBits` is what a
sample takes in memory, a pair of color components or a whole group of interleaved ones. Address
arithmetic uses the average `planeBits` of a column instead; in the formats of the catalog the two
agree on whole samples, which are whole bytes (`sampleBits_eq`).
-/

namespace Blitter

/-! ### Looking up formats -/

/-- No two formats have the same code. -/
theorem Format.format?_code_of_mem {f : Format} (hf : f ∈ catalog) : f.code.format? = some f := by
  have hall : ∀ f ∈ catalog, f.code.format? = some f := by decide
  exact hall f hf

theorem FormatCode.format?_eq_some_iff {c : FormatCode} {f : Format} :
    c.format? = some f ↔ f ∈ Format.catalog ∧ f.code = c := by
  constructor
  · intro h
    have hcode := List.find?_some h
    exact ⟨List.mem_of_find?_eq_some h, beq_iff_eq.mp hcode⟩
  · rintro ⟨hf, rfl⟩
    exact Format.format?_code_of_mem hf

/-- What is read is in a format of the catalog. -/
theorem FormatCode.readLayout_eq_ok_iff {c : FormatCode} {layout : PixelLayout} :
    c.readLayout = .ok layout ↔ ∃ f ∈ Format.catalog, f.code = c ∧ layout = f.layout := by
  unfold readLayout
  constructor
  · intro h
    split at h
    case h_1 f hf =>
      cases h
      obtain ⟨hmem, hcode⟩ := format?_eq_some_iff.mp hf
      exact ⟨f, hmem, hcode, rfl⟩
    case h_2 => exact absurd h reject_ne_ok
  · rintro ⟨f, hf, rfl, rfl⟩
    rw [Format.format?_code_of_mem hf]

/-- What is written is in a format of the catalog that **can be written**. -/
theorem FormatCode.writeLayout_eq_ok_iff {c : FormatCode} {layout : PixelLayout}
    {bypass : StageBypass} :
    c.writeLayout = .ok (layout, bypass) ↔ ∃ f ∈ Format.catalog, f.code = c ∧
      f.writable = true ∧ layout = f.layout ∧ bypass = .ofLayout f.layout := by
  unfold writeLayout
  constructor
  · intro h
    split at h
    case h_1 f hf =>
      split at h
      case isTrue hw =>
        cases h
        obtain ⟨hmem, hcode⟩ := format?_eq_some_iff.mp hf
        exact ⟨f, hmem, hcode, hw, rfl, rfl⟩
      case isFalse => exact absurd h reject_ne_ok
    case h_2 => exact absurd h reject_ne_ok
  · rintro ⟨f, hf, rfl, hw, rfl, rfl⟩
    rw [Format.format?_code_of_mem hf]
    exact if_pos hw

/-- A plane of brightness and one of color pairs, each pair for two columns and two rows. -/
def Format.nv12 : Format :=
  ⟨.ofLetters 'N' 'V' '1' '2', "NV12", .yuv8 0 .quarter .semiPlanar 0, true⟩

theorem Format.nv12_mem_catalog : nv12 ∈ catalog := by decide

/-! ### Samples -/

namespace PixelLayout

/-- Columns of pixels that share a sample of `plane`: those of a color sample, except in a plane
of brightness alone. -/
def planeColumns (l : PixelLayout) (plane : Nat) : Nat :=
  if l.yuv = false ∨ (plane = 0 ∧ l.planarity ≠ .interleaved) then 1 else l.chroma.columns

/-- Bits of a sample of `plane`, of all components that it holds. -/
def sampleBits (l : PixelLayout) (plane : Nat) : Nat :=
  match l.planarity, plane with
  | .interleaved, 0 => l.planeColumns 0 * (l.a.toNat + l.y.toNat) + l.u.toNat + l.v.toNat
  | .semiPlanar, 0 | .planar, 0 => l.y.toNat
  | .semiPlanar, 1 => l.u.toNat + l.v.toNat
  | .planar, 1 => l.u.toNat
  | .planar, 2 => l.v.toNat
  | _, _ => 0

/-- No more than two columns share a sample. -/
theorem planeColumns_eq (l : PixelLayout) (p : Nat) :
    l.planeColumns p = 1 ∨ l.planeColumns p = 2 := by
  unfold planeColumns Chroma.columns
  split
  · exact .inl rfl
  · split <;> decide

theorem planeColumns_pos (l : PixelLayout) (p : Nat) : 0 < l.planeColumns p := by
  rcases l.planeColumns_eq p with h | h <;> omega

/-- Planes are listed in order. -/
theorem pairwise_planes (l : PixelLayout) : l.planes.Pairwise (· < ·) := by
  unfold planes Planarity.planes
  split <;> decide

end PixelLayout

section Catalog

variable {f : Format} (hf : f ∈ Format.catalog)
include hf

/-- The columns of a sample take **what the sample takes**, which is some whole bytes. -/
theorem PixelLayout.sampleBits_eq {p : Fin 3} (hp : p ∈ f.layout.planes) :
    f.layout.sampleBits p = f.layout.planeColumns p * f.layout.planeBits p ∧
      8 ∣ f.layout.sampleBits p ∧ 0 < f.layout.planeBits p := by
  have hall : ∀ f ∈ Format.catalog, ∀ p ∈ f.layout.planes,
      f.layout.sampleBits p = f.layout.planeColumns p * f.layout.planeBits p ∧
        8 ∣ f.layout.sampleBits p ∧ 0 < f.layout.planeBits p := by
    decide +kernel
  exact hall f hf p hp

/-- Aligned columns and rows are **whole samples in every plane**, and in some plane one sample. -/
theorem PixelLayout.align_eq :
    (∀ p ∈ f.layout.planes, f.layout.planeColumns p ∣ f.layout.columnAlign ∧
      f.layout.planeRows p ∣ f.layout.rowAlign) ∧
    ∃ p ∈ f.layout.planes, f.layout.planeColumns p = f.layout.columnAlign ∧
      f.layout.planeRows p = f.layout.rowAlign := by
  have hall : ∀ f ∈ Format.catalog,
      (∀ p ∈ f.layout.planes, f.layout.planeColumns p ∣ f.layout.columnAlign ∧
        f.layout.planeRows p ∣ f.layout.rowAlign) ∧
      ∃ p ∈ f.layout.planes, f.layout.planeColumns p = f.layout.columnAlign ∧
        f.layout.planeRows p = f.layout.rowAlign := by
    decide +kernel
  exact hall f hf

end Catalog

end Blitter
