import Blitter.Proofs.Outcome
import Mathlib.Algebra.Order.Ring.Nat

/-!
# Computing in words

Lengths and places are worked out as natural numbers, or by operations on words that wrap around.
An engine's driver has words and nothing else, and it has to stop where an operation on them has no
result: a sum or a product is beyond the largest word, a difference is below zero, a divisor is
zero, there is no entry of that number, or a number is cut to a shorter word that does not hold it.

A computation `InWords` goes through the same steps one operation at a time, and is `undefined` at
the first that has no result. What takes no arithmetic is taken over from outcomes as it is
(`InWords.of`), and so is the one sum that may fail, that of a plane's address. So a computation
that is equal to an outcome is never undefined, and it fails where the outcome does.
-/

namespace Blitter

/-- Why a computation in words **stops**. -/
inductive Stop where
  /-- The request is turned down, or the address of a plane leaves its word. -/
  | failed (why : Failure)
  /-- An operation on words has no result. -/
  | undefined
  deriving DecidableEq

/-- A result that is worked out **in words**, or why there is none. -/
abbrev InWords := Except Stop

namespace InWords

variable {α β : Type}

/-- What takes no arithmetic, taken over as it is. -/
def of (x : Outcome α) : InWords α := x.mapError .failed

/-- A value that is there under a condition only. -/
def defined (p : Prop) [Decidable p] (a : α) : InWords α := if p then .ok a else .error .undefined

/-! ### Operations -/

def add (a b : UInt32) : InWords UInt32 := defined (a.toNat + b.toNat < 2 ^ 32) (a + b)

def sub (a b : UInt32) : InWords UInt32 := defined (b.toNat ≤ a.toNat) (a - b)

def mul (a b : UInt32) : InWords UInt32 := defined (a.toNat * b.toNat < 2 ^ 32) (a * b)

def div (a b : UInt32) : InWords UInt32 := defined (b ≠ 0) (a / b)

def rem (a b : UInt32) : InWords UInt32 := defined (b ≠ 0) (a % b)

/-- The quotient rounded up. -/
def quotientUp (a b : UInt32) : UInt32 := if a % b = 0 then a / b else a / b + 1

def divUp (a b : UInt32) : InWords UInt32 := defined (b ≠ 0) (quotientUp a b)

/-- The bits moved up, by less than the length of a word. -/
def shiftLeft (a n : UInt32) : InWords UInt32 := defined (n < 32) (a <<< n)

/-- The bits moved down, by less than the length of a word. -/
def shiftRight (a n : UInt32) : InWords UInt32 := defined (n < 32) (a >>> n)

def mulLong (a b : UInt64) : InWords UInt64 := defined (a.toNat * b.toNat < 2 ^ 64) (a * b)

def divLong (a b : UInt64) : InWords UInt64 := defined (b ≠ 0) (a / b)

/-- The lower word, where the upper one is zero. -/
def narrow (a : UInt64) : InWords UInt32 := defined (a.toNat < 2 ^ 32) a.toUInt32

/-- The word for the number of an entry. -/
def ofIndex (n : Nat) : InWords UInt32 := defined (n < 2 ^ 32) (UInt32.ofNat n)

/-- The number of the entry `n` places after `m`. Numbers of entries are held to 32 bits, which is
the least that they have on any machine. -/
def indexAfter (m n : Nat) : InWords Nat := defined (m + n < 2 ^ 32) (m + n)

/-- The number of the entry `n` places before `m`. -/
def indexBefore (m n : Nat) : InWords Nat := defined (n ≤ m) (m - n)

/-- The entry of that number. -/
def get {n : Nat} (xs : Vector α n) (i : Nat) : InWords α :=
  if h : i < n then .ok xs[i] else .error .undefined

/-- The entries with that one replaced. -/
def set {n : Nat} (xs : Vector α n) (i : Nat) (a : α) : InWords (Vector α n) :=
  if h : i < n then .ok (xs.set i a) else .error .undefined

/-! ### Operations that have a result -/

section Operations

theorem defined_eq_ok {p : Prop} [Decidable p] {a : α} (h : p) : defined p a = .ok a := if_pos h

section Divisor

variable {a b : UInt32} (hb : 0 < b.toNat)
include hb

theorem ne_zero_of_pos : b ≠ 0 := by
  rintro rfl
  exact Nat.lt_irrefl 0 hb

theorem div_eq : div a b = .ok (a / b) := defined_eq_ok (ne_zero_of_pos hb)

theorem rem_eq : rem a b = .ok (a % b) := defined_eq_ok (ne_zero_of_pos hb)

theorem divUp_eq : divUp a b = .ok (quotientUp a b) := defined_eq_ok (ne_zero_of_pos hb)

/-- A quotient that is rounded up **is no larger than what is divided**, so that it is a word. -/
theorem toNat_quotientUp : (quotientUp a b).toNat = (a.toNat + b.toNat - 1) / b.toNat := by
  have hdivmod := Nat.div_add_mod' a.toNat b.toNat
  have hmod := Nat.mod_lt a.toNat hb
  have hlt := a.toNat_lt
  rw [eq_comm, Nat.div_eq_iff hb, quotientUp]
  split
  case isTrue h =>
    have hzero : a.toNat % b.toNat = 0 := by rw [← UInt32.toNat_mod, h, UInt32.toNat_zero]
    rw [UInt32.toNat_div]
    omega
  case isFalse h =>
    have hpos : 0 < a.toNat % b.toNat := by
      refine Nat.pos_of_ne_zero fun h0 => h (UInt32.toNat_inj.mp ?_)
      rw [UInt32.toNat_mod, h0, UInt32.toNat_zero]
    have hle := Nat.le_mul_of_pos_right (a.toNat / b.toNat) hb
    have hsucc : (a / b + 1).toNat = a.toNat / b.toNat + 1 := by
      rw [UInt32.toNat_add, UInt32.toNat_div, UInt32.toNat_one]
      exact Nat.mod_eq_of_lt (by omega)
    rw [hsucc, Nat.add_mul, Nat.one_mul]
    omega

end Divisor

section Word

variable {m n : Nat}

theorem add_ofNat (h : m + n < 2 ^ 32) :
    add (UInt32.ofNat m) (UInt32.ofNat n) = .ok (UInt32.ofNat (m + n)) := by
  have hm : m < 2 ^ 32 := by omega
  have hn : n < 2 ^ 32 := by omega
  rw [add, UInt32.ofNat_add]
  refine defined_eq_ok ?_
  rwa [UInt32.toNat_ofNat_of_lt' hm, UInt32.toNat_ofNat_of_lt' hn]

theorem mul_ofNat (hm : m < 2 ^ 32) (hn : n < 2 ^ 32) (h : m * n < 2 ^ 32) :
    mul (UInt32.ofNat m) (UInt32.ofNat n) = .ok (UInt32.ofNat (m * n)) := by
  rw [mul, UInt32.ofNat_mul]
  refine defined_eq_ok ?_
  rwa [UInt32.toNat_ofNat_of_lt' hm, UInt32.toNat_ofNat_of_lt' hn]

/-- A number that fits a word is zero as a word exactly if it is zero. -/
theorem ofNat_eq_zero_iff (hn : n < 2 ^ 32) : UInt32.ofNat n = 0 ↔ n = 0 := by
  rw [← UInt32.toNat_inj, UInt32.toNat_ofNat_of_lt' hn, UInt32.toNat_zero]

theorem div_ofNat (hm : m < 2 ^ 32) (hn : n < 2 ^ 32) (hpos : 0 < n) :
    div (UInt32.ofNat m) (UInt32.ofNat n) = .ok (UInt32.ofNat (m / n)) := by
  rw [div, UInt32.ofNat_div hm hn]
  exact defined_eq_ok (mt (ofNat_eq_zero_iff hn).mp (Nat.ne_of_gt hpos))

theorem rem_ofNat (hm : m < 2 ^ 32) (hn : n < 2 ^ 32) (hpos : 0 < n) :
    rem (UInt32.ofNat m) (UInt32.ofNat n) = .ok (UInt32.ofNat (m % n)) := by
  rw [rem, UInt32.ofNat_mod hm hn]
  exact defined_eq_ok (mt (ofNat_eq_zero_iff hn).mp (Nat.ne_of_gt hpos))

theorem sub_ofNat (hm : m < 2 ^ 32) (h : n ≤ m) :
    sub (UInt32.ofNat m) (UInt32.ofNat n) = .ok (UInt32.ofNat (m - n)) := by
  rw [sub, UInt32.ofNat_sub h]
  refine defined_eq_ok ?_
  rwa [UInt32.toNat_ofNat_of_lt' hm, UInt32.toNat_ofNat_of_lt' (Nat.lt_of_le_of_lt h hm)]

section

variable (a : UInt32)

theorem div_word (hn : n < 2 ^ 32) (hpos : 0 < n) :
    div a (.ofNat n) = .ok (.ofNat (a.toNat / n)) := by
  have h := div_ofNat a.toNat_lt hn hpos
  rwa [UInt32.ofNat_toNat] at h

theorem rem_word (hn : n < 2 ^ 32) (hpos : 0 < n) :
    rem a (.ofNat n) = .ok (.ofNat (a.toNat % n)) := by
  have h := rem_ofNat a.toNat_lt hn hpos
  rwa [UInt32.ofNat_toNat] at h

theorem sub_word (h : n ≤ a.toNat) : sub a (.ofNat n) = .ok (.ofNat (a.toNat - n)) := by
  have h := sub_ofNat a.toNat_lt h
  rwa [UInt32.ofNat_toNat] at h

end

theorem ofIndex_eq (h : n < 2 ^ 32) : ofIndex n = .ok (UInt32.ofNat n) := defined_eq_ok h

theorem mulLong_ofNat (hm : m < 2 ^ 32) (hn : n < 2 ^ 32) :
    mulLong (UInt64.ofNat m) (UInt64.ofNat n) = .ok (UInt64.ofNat (m * n)) := by
  rw [mulLong, UInt64.ofNat_mul]
  refine defined_eq_ok ?_
  have hm' : m < 2 ^ 64 := by omega
  have hn' : n < 2 ^ 64 := by omega
  have h := Nat.mul_lt_mul'' hm hn
  rw [UInt64.toNat_ofNat_of_lt' hm', UInt64.toNat_ofNat_of_lt' hn']
  omega

theorem divLong_ofNat (hm : m < 2 ^ 64) (hn : n < 2 ^ 64) (hpos : 0 < n) :
    divLong (UInt64.ofNat m) (UInt64.ofNat n) = .ok (UInt64.ofNat (m / n)) := by
  rw [divLong, UInt64.ofNat_div hm hn]
  refine defined_eq_ok ?_
  rw [ne_eq, ← UInt64.toNat_inj, UInt64.toNat_ofNat_of_lt' hn, UInt64.toNat_zero]
  exact Nat.ne_of_gt hpos

theorem narrow_ofNat (h : n < 2 ^ 32) :
    narrow (UInt64.ofNat n) = .ok (UInt32.ofNat n) := by
  have h' : n < 2 ^ 64 := by omega
  rw [narrow, UInt64.toUInt32_ofNat', UInt64.toNat_ofNat_of_lt' h']
  exact defined_eq_ok h

end Word

theorem get_eq {n : Nat} {xs : Vector α n} {i : Nat} (h : i < n) : get xs i = .ok xs[i] := dif_pos h

theorem set_eq {n : Nat} {xs : Vector α n} {i : Nat} {a : α} (h : i < n) :
    set xs i a = .ok (xs.set i a) :=
  dif_pos h

end Operations

/-! ### Steps -/

section Steps

/-- A step that has a result is followed by the next one. -/
theorem ok_bind {a : α} {f : α → InWords β} : ((.ok a : InWords α) >>= f) = f a := rfl

/-- What is taken over is **never undefined**. -/
theorem of_ne_undefined (x : Outcome α) : of x ≠ .error .undefined := by
  cases x <;> nofun

/-- Steps that are equal to those of an outcome **make up the outcome**: the second for each result
that the first can have. -/
theorem bind_eq_of {x : InWords α} {x' : Outcome α} {f : α → InWords β} {f' : α → Outcome β}
    (hx : x = of x') (hf : ∀ a, x' = .ok a → f a = of (f' a)) :
    (x >>= f) = of (x' >>= f') := by
  subst hx
  cases x' with
  | ok a => exact hf a rfl
  | error e => rfl

theorem ite_eq_of {c : Prop} [Decidable c] {x y : InWords α} {x' y' : Outcome α}
    (hx : c → x = of x') (hy : ¬ c → y = of y') :
    (if c then x else y) = of (if c then x' else y') := by
  split
  case isTrue h => exact hx h
  case isFalse h => exact hy h

section Lists

variable {as : List α}

theorem mapM_eq_of {f : α → InWords β} {f' : α → Outcome β} (h : ∀ a ∈ as, f a = of (f' a)) :
    as.mapM f = of (as.mapM f') := by
  induction as with
  | nil => rfl
  | cons a as ih =>
    obtain ⟨ha, has⟩ := List.forall_mem_cons.mp h
    rw [List.mapM_cons, List.mapM_cons]
    exact bind_eq_of ha fun _ _ => bind_eq_of (ih has) fun _ _ => rfl

theorem mapM_eq_ok {f : α → InWords β} {g : α → β} (h : ∀ a ∈ as, f a = .ok (g a)) :
    as.mapM f = .ok (as.map g) := by
  induction as with
  | nil => rfl
  | cons a as ih =>
    obtain ⟨ha, has⟩ := List.forall_mem_cons.mp h
    rw [List.mapM_cons, ha, ok_bind, ih has]
    rfl

theorem foldlM_eq_of {f : β → α → InWords β} {f' : β → α → Outcome β}
    (h : ∀ b, ∀ a ∈ as, f b a = of (f' b a)) (b : β) :
    as.foldlM f b = of (as.foldlM f' b) := by
  induction as generalizing b with
  | nil => rfl
  | cons a as ih =>
    rw [List.foldlM_cons, List.foldlM_cons]
    exact bind_eq_of (h b a List.mem_cons_self) fun b' _ =>
      ih (fun b a ha => h b a (List.mem_cons_of_mem _ ha)) b'

theorem foldlM_eq_ok {f : β → α → InWords β} {g : β → α → β}
    (h : ∀ b, ∀ a ∈ as, f b a = .ok (g b a)) (b : β) :
    as.foldlM f b = .ok (as.foldl g b) := by
  induction as generalizing b with
  | nil => rfl
  | cons a as ih =>
    rw [List.foldlM_cons, h b a List.mem_cons_self, ok_bind,
      ih fun b a ha => h b a (List.mem_cons_of_mem _ ha)]
    rfl

end Lists

end Steps

end InWords

end Blitter
