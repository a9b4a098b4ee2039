import Blitter.Proofs.Outcome
import Blitter.Strip
import Mathlib.Algebra.Order.Ring.Nat

/-!
# Moving the addresses of planes

`moveAddresses` adds an offset to the address of each listed plane and leaves the others alone.
It gives a result exactly when no address leaves its word.
-/

namespace Blitter

/-- What is given for each of the three planes. -/
def forPlanes {α : Type} (a b c : α) : Vector α 3 :=
  Vector.ofFn fun p =>
    match p.val with
    | 0 => a
    | 1 => b
    | _ => c

/-- What is set for a plane is what is got for it. -/
theorem get_set_plane {α : Type} (xs : Vector α 3) (p : Fin 3) (hp : p.val < 3) (a : α) :
    (xs.set p a hp).get p = a :=
  Vector.getElem_set_self hp

/-- Other planes keep what they have. -/
theorem get_set_plane_ne {α : Type} (xs : Vector α 3) {p q : Fin 3} (h : p ≠ q) (hp : p.val < 3)
    (a : α) : (xs.set p a hp).get q = xs.get q :=
  Vector.getElem_set_ne hp q.isLt fun hpq => h (Fin.ext hpq)

variable {offset : Fin 3 → Nat} {planes : List (Fin 3)} {address moved : Vector UInt64 3}

/-- A plane that is not listed keeps its address. -/
theorem get_moveAddresses_of_notMem (h : moveAddresses offset planes address = .ok moved)
    {p : Fin 3} (hp : p ∉ planes) : moved.get p = address.get p := by
  induction planes generalizing address with
  | nil => cases h; rfl
  | cons q planes ih =>
    obtain ⟨hne, hp⟩ := List.ne_and_not_mem_of_not_mem_cons hp
    obtain ⟨w, -, h⟩ := Outcome.bind_eq_ok_iff.mp h
    rw [ih h hp]
    exact get_set_plane_ne _ hne.symm _ _

/-- A listed plane has its address **moved by its offset**. -/
theorem toNat_get_moveAddresses (h : moveAddresses offset planes address = .ok moved)
    (hnodup : planes.Nodup) {p : Fin 3} (hp : p ∈ planes) :
    (moved.get p).toNat = (address.get p).toNat + offset p := by
  induction planes generalizing address with
  | nil => cases hp
  | cons q planes ih =>
    obtain ⟨hq, hnodup⟩ := List.nodup_cons.mp hnodup
    obtain ⟨w, hw, h⟩ := Outcome.bind_eq_ok_iff.mp h
    rcases List.mem_cons.mp hp with rfl | hp
    -- the first plane is not listed again, and later moves leave it alone
    · rw [get_moveAddresses_of_notMem h hq, get_set_plane]
      exact fit64_eq_ok_iff.mp hw
    · have hne : q ≠ p := fun hqp => hq (hqp ▸ hp)
      rw [ih h hnodup hp, get_set_plane_ne _ hne]

/-- A number that does not fit a word overflows. -/
theorem fit64_eq_error_iff {n : Nat} {e : Failure} :
    fit64 n = .error e ↔ e = .overflow ∧ 2 ^ 64 ≤ n := by
  unfold fit64
  split
  case isTrue h =>
    refine iff_of_false nofun fun hn => ?_
    omega
  case isFalse h =>
    rw [Except.error.injEq, eq_comm, iff_self_and]
    exact fun _ => Nat.le_of_not_lt h

/-- Moving addresses fails where **one of them leaves its word**, and in no other way. -/
theorem moveAddresses_eq_error_iff (hnodup : planes.Nodup) {e : Failure} :
    moveAddresses offset planes address = .error e ↔
      e = .overflow ∧ ∃ p ∈ planes, 2 ^ 64 ≤ (address.get p).toNat + offset p := by
  induction planes generalizing address with
  | nil =>
    refine iff_of_false nofun ?_
    rintro ⟨-, p, hp, -⟩
    cases hp
  | cons q planes ih =>
    obtain ⟨hq, hnodup⟩ := List.nodup_cons.mp hnodup
    -- the planes after the first have the addresses they had
    have hrest (w : UInt64) {p : Fin 3} (hp : p ∈ planes) :
        (address.set q w).get p = address.get p :=
      get_set_plane_ne _ (fun hqp : q = p => hq (hqp ▸ hp)) _ _
    refine Outcome.bind_eq_error_iff.trans ?_
    rw [fit64_eq_error_iff, List.exists_mem_cons_iff]
    constructor
    · rintro (⟨rfl, hle⟩ | ⟨w, -, h⟩)
      · exact ⟨rfl, .inl hle⟩
      · obtain ⟨rfl, p, hp, hle⟩ := (ih hnodup).mp h
        rw [hrest w hp] at hle
        exact ⟨rfl, .inr ⟨p, hp, hle⟩⟩
    · rintro ⟨rfl, hle | ⟨p, hp, hle⟩⟩
      · exact .inl ⟨rfl, hle⟩
      · cases hw : fit64 ((address.get q).toNat + offset q) with
        | error e =>
          obtain ⟨-, hle⟩ := fit64_eq_error_iff.mp hw
          exact .inl ⟨rfl, hle⟩
        | ok w =>
          refine .inr ⟨w, rfl, (ih hnodup).mpr ⟨rfl, p, hp, ?_⟩⟩
          rw [hrest w hp]
          exact hle

/-- Addresses **can be moved** exactly if none of them leaves its word. -/
theorem exists_moveAddresses_iff (hnodup : planes.Nodup) :
    (∃ moved, moveAddresses offset planes address = .ok moved) ↔
      ∀ p ∈ planes, (address.get p).toNat + offset p < 2 ^ 64 := by
  constructor
  · rintro ⟨moved, h⟩ p hp
    rw [← toNat_get_moveAddresses h hnodup hp]
    exact (moved.get p).toNat_lt
  · intro hfit
    cases h : moveAddresses offset planes address with
    | ok moved => exact ⟨moved, rfl⟩
    | error e =>
      obtain ⟨-, p, hp, hle⟩ := (moveAddresses_eq_error_iff hnodup).mp h
      exact absurd (hfit p hp) (Nat.not_lt.mpr hle)

end Blitter
