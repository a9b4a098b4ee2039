import Blitter.Failure
import Mathlib.Data.List.Perm.Basic

/-!
# Outcomes that came about

What is known when a computation that may fail gave a result: each of its steps gave one. The
laws for lists relate the results, position by position, to what they were computed from.
-/

namespace Blitter

variable {α β γ : Type}

/-- A list is mapped to another **item by item**. -/
theorem map_eq_iff_forall₂ {f : β → α} {as : List α} {bs : List β} :
    bs.map f = as ↔ List.Forall₂ (fun a b => a = f b) as bs := by
  rw [eq_comm, ← List.forall₂_eq_eq_eq, List.forall₂_map_right_iff]

/-- Items that are each related to something are related, **one after the other**, to a list. -/
theorem exists_forall₂ {R : α → β → Prop} {as : List α} (h : ∀ a ∈ as, ∃ b, R a b) :
    ∃ bs, List.Forall₂ R as bs := by
  induction as with
  | nil => exact ⟨[], .nil⟩
  | cons a as ih =>
    obtain ⟨⟨b, hb⟩, htail⟩ := List.forall_mem_cons.mp h
    obtain ⟨bs, hbs⟩ := ih htail
    exact ⟨b :: bs, .cons hb hbs⟩

namespace Outcome

/-- What came about is one thing. -/
theorem eq_of_eq_ok {x : Outcome α} {a b : α} (ha : x = .ok a) (hb : x = .ok b) : a = b :=
  Except.ok.inj (ha.symm.trans hb)

/-- A step that came about is followed by the next one. -/
theorem ok_bind {a : α} {f : α → Outcome β} : ((.ok a : Outcome α) >>= f) = f a := rfl

/-- A mapped outcome came about exactly when what is mapped did. -/
theorem map_eq_ok_iff {x : Outcome α} {f : α → β} {b : β} :
    f <$> x = .ok b ↔ ∃ a, x = .ok a ∧ f a = b := by
  cases x with
  | error e =>
    constructor
    · intro h
      cases h
    · rintro ⟨_, h, _⟩
      cases h
  | ok a =>
    constructor
    · intro h
      exact ⟨a, rfl, Except.ok.inj h⟩
    · rintro ⟨_, ⟨⟩, rfl⟩
      rfl

/-- What fails in two steps fails in the first of them, **or in the second** on a result of the
first. -/
theorem bind_eq_error_iff {x : Outcome α} {f : α → Outcome β} {e : Failure} :
    (x >>= f) = .error e ↔ x = .error e ∨ ∃ a, x = .ok a ∧ f a = .error e := by
  cases x with
  | error e' =>
    constructor
    · rintro ⟨⟩
      exact .inl rfl
    · rintro (⟨⟨⟩⟩ | ⟨_, h, -⟩)
      · rfl
      · cases h
  | ok a =>
    constructor
    · intro h
      exact .inr ⟨a, rfl, h⟩
    · rintro (h | ⟨_, ⟨⟩, h⟩)
      · cases h
      · exact h

/-- A mapped outcome fails as what is mapped does. -/
theorem map_eq_error_iff {x : Outcome α} {f : α → β} {e : Failure} :
    f <$> x = .error e ↔ x = .error e := by
  cases x with
  | error e' => exact ⟨fun h => by cases h; rfl, fun h => by cases h; rfl⟩
  | ok a => exact ⟨nofun, nofun⟩

/-- A check followed by a computation gives a result exactly when the check passes. -/
theorem seq_eq_ok_iff {x : Outcome Unit} {y : Outcome β} {b : β} :
    (x >>= fun _ => y) = .ok b ↔ x = .ok () ∧ y = .ok b := by
  rw [Outcome.bind_eq_ok_iff]
  constructor
  · rintro ⟨⟨⟩, hx, hy⟩
    exact ⟨hx, hy⟩
  · rintro ⟨hx, hy⟩
    exact ⟨(), hx, hy⟩

/-- Results of a mapped list correspond to its items, one for each and in order. -/
theorem mapM_eq_ok_iff {f : α → Outcome β} {as : List α} {bs : List β} :
    as.mapM f = .ok bs ↔ List.Forall₂ (fun a b => f a = .ok b) as bs := by
  induction as generalizing bs with
  | nil =>
    rw [List.mapM_nil, List.forall₂_nil_left_iff]
    constructor
    · rintro ⟨⟩
      rfl
    · rintro rfl
      rfl
  | cons a as ih =>
    rw [List.mapM_cons, Outcome.bind_eq_ok_iff, List.forall₂_cons_left_iff]
    constructor
    · rintro ⟨b, hb, h⟩
      obtain ⟨bs', hbs', h⟩ := Outcome.bind_eq_ok_iff.mp h
      cases h
      exact ⟨b, bs', hb, ih.mp hbs', rfl⟩
    · rintro ⟨b, bs', hb, hbs', rfl⟩
      exact ⟨b, hb, Outcome.bind_eq_ok_iff.mpr ⟨bs', ih.mpr hbs', rfl⟩⟩

section MapM

variable {f : α → Outcome β} {as : List α} {bs : List β}

theorem length_of_mapM (h : as.mapM f = .ok bs) : bs.length = as.length :=
  (mapM_eq_ok_iff.mp h).length_eq.symm

/-- The result at a position is that of the item at the position. -/
theorem getElem_of_mapM (h : as.mapM f = .ok bs) {i : Nat} (ha : i < as.length)
    (hb : i < bs.length) : f as[i] = .ok bs[i] :=
  (mapM_eq_ok_iff.mp h).get ha hb

/-- The results are those of the items. -/
theorem mem_mapM_iff (h : as.mapM f = .ok bs) {b : β} : b ∈ bs ↔ ∃ a ∈ as, f a = .ok b := by
  constructor
  · intro hb
    obtain ⟨i, hi, rfl⟩ := List.mem_iff_getElem.mp hb
    have ha : i < as.length := length_of_mapM h ▸ hi
    exact ⟨as[i], List.getElem_mem ha, getElem_of_mapM h ha hi⟩
  · rintro ⟨a, ha, hab⟩
    obtain ⟨i, hi, rfl⟩ := List.mem_iff_getElem.mp ha
    have hb : i < bs.length := (length_of_mapM h).symm ▸ hi
    rw [getElem_of_mapM h hi hb] at hab
    exact Except.ok.inj hab ▸ List.getElem_mem hb

/-- Each item has a result. -/
theorem exists_mem_of_mapM (h : as.mapM f = .ok bs) {a : α} (ha : a ∈ as) :
    ∃ b ∈ bs, f a = .ok b := by
  obtain ⟨i, hi, rfl⟩ := List.mem_iff_getElem.mp ha
  have hb : i < bs.length := (length_of_mapM h).symm ▸ hi
  exact ⟨bs[i], List.getElem_mem hb, getElem_of_mapM h hi hb⟩

/-- What holds between any two items, one before the other, holds between their results. -/
theorem pairwise_of_mapM {R : α → α → Prop} {S : β → β → Prop} (h : as.mapM f = .ok bs)
    (hR : as.Pairwise R)
    (hS : ∀ a ∈ as, ∀ a' ∈ as, ∀ b b', f a = .ok b → f a' = .ok b' → R a a' → S b b') :
    bs.Pairwise S := by
  rw [List.pairwise_iff_getElem] at hR ⊢
  intro i j hi hj hij
  have hi' : i < as.length := length_of_mapM h ▸ hi
  have hj' : j < as.length := length_of_mapM h ▸ hj
  exact hS _ (List.getElem_mem hi') _ (List.getElem_mem hj') _ _ (getElem_of_mapM h hi' hi)
    (getElem_of_mapM h hj' hj) (hR i j hi' hj' hij)

/-- Results of two ways of mapping a list correspond to each other as they do item by item. -/
theorem forall₂_of_mapM {f' : α → Outcome γ} {cs : List γ} {R : β → γ → Prop}
    (h : as.mapM f = .ok bs) (h' : as.mapM f' = .ok cs)
    (hR : ∀ a ∈ as, ∀ b c, f a = .ok b → f' a = .ok c → R b c) : List.Forall₂ R bs cs := by
  rw [mapM_eq_ok_iff] at h h'
  induction h generalizing cs with
  | nil =>
    cases h'
    exact .nil
  | cons hb _ ih =>
    cases h' with
    | cons hc htail =>
      obtain ⟨hhead, hR⟩ := List.forall_mem_cons.mp hR
      exact .cons (hhead _ _ hb hc) (ih htail hR)

end MapM

/-- Items in another order have the same results **in another order**. -/
theorem exists_mapM_of_perm {f : α → Outcome β} {as as' : List α} {bs : List β}
    (hp : as.Perm as') (h : as.mapM f = .ok bs) :
    ∃ bs', as'.mapM f = .ok bs' ∧ bs.Perm bs' := by
  obtain ⟨bs', h', hbs⟩ := List.perm_comp_forall₂ hp.symm (mapM_eq_ok_iff.mp h)
  exact ⟨bs', mapM_eq_ok_iff.mpr h', hbs.symm⟩

/-- Items that correspond have results that correspond, if each result has one that does. -/
theorem exists_mapM_of_forall₂ {f f' : α → Outcome β} {R : α → α → Prop} {S : β → β → Prop}
    {as as' : List α} {bs : List β} (hR : List.Forall₂ R as as') (h : as.mapM f = .ok bs)
    (hS : ∀ a ∈ as, ∀ a' b, R a a' → f a = .ok b → ∃ b', f' a' = .ok b' ∧ S b b') :
    ∃ bs', as'.mapM f' = .ok bs' ∧ List.Forall₂ S bs bs' := by
  rw [mapM_eq_ok_iff] at h
  induction hR generalizing bs with
  | nil =>
    cases h
    exact ⟨[], rfl, .nil⟩
  | cons ha _ ih =>
    cases h with
    | cons hb htail =>
      obtain ⟨hhead, hS⟩ := List.forall_mem_cons.mp hS
      obtain ⟨b', hb', hbb'⟩ := hhead _ _ ha hb
      obtain ⟨bs', hbs', hall⟩ := ih htail hS
      exact ⟨b' :: bs', mapM_eq_ok_iff.mpr (.cons hb' (mapM_eq_ok_iff.mp hbs')), .cons hbb' hall⟩

/-- A list mapped in two steps, of which the second does not fail, is mapped by the second
**once the first came about**. -/
theorem mapM_map_eq {f : α → Outcome β} {g : β → γ} (as : List α) :
    as.mapM (fun a => g <$> f a) = List.map g <$> as.mapM f := by
  induction as with
  | nil => rfl
  | cons a as ih =>
    rw [List.mapM_cons, List.mapM_cons, ih]
    cases f a with
    | error e => rfl
    | ok b => cases as.mapM f <;> rfl

/-- A mapped list has results if each of its items has one. -/
theorem exists_mapM_eq_ok {f : α → Outcome β} {as : List α} (h : ∀ a ∈ as, ∃ b, f a = .ok b) :
    ∃ bs, as.mapM f = .ok bs := by
  obtain ⟨bs, hbs⟩ := exists_forall₂ h
  exact ⟨bs, mapM_eq_ok_iff.mpr hbs⟩

/-- A mapped list fails **as one of its items does**. -/
theorem exists_of_mapM_eq_error {f : α → Outcome β} {as : List α} {e : Failure}
    (h : as.mapM f = .error e) : ∃ a ∈ as, f a = .error e := by
  induction as with
  | nil => cases h
  | cons a as ih =>
    rw [List.mapM_cons, bind_eq_error_iff] at h
    rcases h with h | ⟨b, -, h⟩
    · exact ⟨a, List.mem_cons_self, h⟩
    · rcases bind_eq_error_iff.mp h with h | ⟨_, -, h⟩
      · obtain ⟨a', ha', h⟩ := ih h
        exact ⟨a', List.mem_cons_of_mem a ha', h⟩
      · cases h

/-- Checks of all items of a list passed exactly when each of them did. -/
theorem forM_eq_ok_iff {f : α → Outcome Unit} {as : List α} :
    as.forM f = .ok () ↔ ∀ a ∈ as, f a = .ok () := by
  induction as with
  | nil => exact iff_of_true rfl (by simp)
  | cons a as ih =>
    rw [List.forall_mem_cons, ← ih]
    exact Outcome.seq_eq_ok_iff

end Outcome

/-- Nothing that is turned down gives a result. -/
theorem reject_ne_ok {why : Rejection} {a : α} : reject why ≠ Except.ok a := nofun

/-- A check that turns something down under a condition passes only where the condition fails. -/
theorem ite_reject_eq_ok_iff {c : Prop} [Decidable c] {why : Rejection} {x : Outcome α} {a : α} :
    (if c then reject why else x) = .ok a ↔ ¬ c ∧ x = .ok a := by
  split
  · simp only [reject_ne_ok, not_true_eq_false, false_and, *]
  · simp only [not_false_eq_true, true_and, *]

theorem ite_reject_eq_error_iff {c : Prop} [Decidable c] {why : Rejection} {x : Outcome α}
    {e : Failure} :
    (if c then reject why else x) = .error e ↔
      c ∧ e = .rejected why ∨ ¬ c ∧ x = .error e := by
  split
  · simp only [reject, Except.error.injEq, eq_comm (a := e), true_and, not_true_eq_false, false_and,
      or_false, *]
  · simp only [false_and, false_or, not_false_eq_true, true_and, *]

theorem ite_rejectGeometry_eq_ok_iff {c : Prop} [Decidable c] {fault : GeometryFault}
    {x : Outcome α} {a : α} :
    (if c then rejectGeometry fault else x) = .ok a ↔ ¬ c ∧ x = .ok a :=
  ite_reject_eq_ok_iff

end Blitter
