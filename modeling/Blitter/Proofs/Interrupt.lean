import Blitter.Completion
import Blitter.Proofs.Outcome
import Mathlib.Data.List.Induction
import Mathlib.Order.Basic

/-!
# What arrives when

A schedule is a list of statuses with the times at which they arrive, in any order. What a waiter
can see of it are the bits that arrive at each instant, all statuses of the instant together
(`arriving`). An interrupt line that is started with a schedule keeps exactly these, in order of
time (`InterruptLine.brings_start`), and a wait finds the first instant that brings any
(`InterruptLine.firstDue_spec`).

A wait for one bit goes on until an instant decides it, however many others come before
(`InterruptLine.awaitDue_spec`). Its deadline does not depend on them, since the time that is left
is counted from the same start each time. An instant at the deadline itself is still in time.
-/

namespace Blitter

/-- The bits of several statuses together. -/
def joined (statuses : List UInt32) : UInt32 := statuses.foldl (· ||| ·) 0

theorem foldl_or (statuses : List UInt32) (bits : UInt32) :
    statuses.foldl (· ||| ·) bits = bits ||| joined statuses := by
  unfold joined
  induction statuses generalizing bits with
  | nil => exact UInt32.or_zero.symm
  | cons status statuses ih =>
    rw [List.foldl_cons, List.foldl_cons, ih, ih (0 ||| status), UInt32.zero_or, UInt32.or_assoc]

@[simp] theorem joined_nil : joined [] = 0 := rfl

theorem joined_cons (status : UInt32) (statuses : List UInt32) :
    joined (status :: statuses) = status ||| joined statuses := by
  rw [joined, List.foldl_cons, foldl_or, UInt32.zero_or]

theorem joined_append (ss ts : List UInt32) : joined (ss ++ ts) = joined ss ||| joined ts := by
  rw [joined, List.foldl_append, foldl_or]
  rfl

theorem joined_flatMap {α : Type} (f : α → List UInt32) (as : List α) :
    joined (as.flatMap f) = joined (as.map fun a => joined (f a)) := by
  induction as with
  | nil => rfl
  | cons a as ih => rw [List.flatMap_cons, joined_append, ih, List.map_cons, joined_cons]

theorem joined_eq_zero {statuses : List UInt32} (h : ∀ status ∈ statuses, status = 0) :
    joined statuses = 0 := by
  induction statuses with
  | nil => rfl
  | cons status statuses ih =>
    obtain ⟨rfl, hstatuses⟩ := List.forall_mem_cons.mp h
    rw [joined_cons, ih hstatuses, UInt32.zero_or]

/-- The bits that **arrive at an instant**. -/
def arriving (schedule : List (Nat × UInt32)) (time : Nat) : UInt32 :=
  joined (statusesAt schedule time)

theorem arriving_concat (schedule : List (Nat × UInt32)) (e : Nat × UInt32) (time : Nat) :
    arriving (schedule ++ [e]) time =
      if e.1 = time then arriving schedule time ||| e.2 else arriving schedule time := by
  simp only [arriving, statusesAt, List.filter_append, List.map_append, joined_append]
  by_cases htime : e.1 = time
  · rw [if_pos htime, List.filter_singleton, beq_iff_eq.mpr htime]
    simp [joined_cons]
  · rw [if_neg htime, List.filter_singleton, beq_eq_false_iff_ne.mpr htime]
    simp

namespace InterruptLine

/-- The interrupts that are due are **what arrives from some time on**, in order. -/
structure Brings (due : List (Nat × UInt32)) (first : Nat) (bitsAt : Nat → UInt32) : Prop where
  sorted : due.Pairwise fun a b => a.1 < b.1
  le : ∀ e ∈ due, first ≤ e.1
  bits : ∀ e ∈ due, e.2 = bitsAt e.1
  complete : ∀ time, first ≤ time → bitsAt time ≠ 0 → (time, bitsAt time) ∈ due

section Brings

variable {due : List (Nat × UInt32)} {first time deadline : Nat} {status : UInt32}
  {bitsAt : Nat → UInt32}

/-- What is due after a status is added: the statuses of its own instant are **joined**, and all
others stay. -/
theorem mem_addDue_iff (h : due.Pairwise fun a b => a.1 < b.1) {t : Nat} {bits : UInt32} :
    (t, bits) ∈ addDue time status due ↔
      (t ≠ time ∧ (t, bits) ∈ due) ∨
        (t = time ∧ ((∃ before, (time, before) ∈ due ∧ bits = before ||| status) ∨
          (∀ before, (time, before) ∉ due) ∧ bits = status)) := by
  induction due with
  | nil => simp [addDue]
  | cons d due ih =>
    obtain ⟨next, there⟩ := d
    obtain ⟨hfirst, hrest⟩ := List.pairwise_cons.mp h
    have hlater {t : Nat} {bits : UInt32} (hmem : (t, bits) ∈ due) : next < t := hfirst _ hmem
    unfold addDue
    split
    case isTrue hearlier =>
      have hnone (before : UInt32) : (time, before) ∉ (next, there) :: due := by
        intro hmem
        rcases List.mem_cons.mp hmem with heq | hmem
        · cases heq
          exact Nat.lt_irrefl _ hearlier
        · exact Nat.lt_asymm hearlier (hlater hmem)
      by_cases ht : t = time
      · subst ht
        simp [hnone]
      · simp [ht]
    case isFalse hlate =>
      split
      case isTrue hsame =>
        subst hsame
        have hnone (before : UInt32) : (time, before) ∉ due := fun hmem =>
          Nat.lt_irrefl _ (hlater hmem)
        by_cases ht : t = time
        · subst ht
          simp [hnone]
        · simp [ht]
      case isFalse hother =>
        rw [List.mem_cons, ih hrest]
        by_cases ht : t = time
        · subst ht
          simp [hother]
        · simp [ht]

/-- **Adding a status** adds its bits to those of its instant. -/
theorem Brings.addDue (h : Brings due 0 bitsAt) (time : Nat) (status : UInt32) :
    Brings (addDue time status due) 0
      fun t => if time = t then bitsAt t ||| status else bitsAt t where
  sorted := pairwise_addDue time status h.sorted
  le _ _ := Nat.zero_le _
  bits := by
    rintro ⟨t, bits⟩ hmem
    rcases (mem_addDue_iff h.sorted).mp hmem with ⟨hne, hmem⟩ | ⟨rfl, hjoined | ⟨hnone, rfl⟩⟩
    · rw [if_neg hne.symm]
      exact h.bits _ hmem
    · obtain ⟨before, hbefore, rfl⟩ := hjoined
      rw [if_pos rfl, ← h.bits _ hbefore]
    · -- nothing was to come at the instant, so its bits were zero
      have hzero : bitsAt t = 0 := by
        by_contra hne
        exact hnone _ (h.complete t (Nat.zero_le _) hne)
      rw [if_pos rfl, hzero, UInt32.zero_or]
  complete := by
    intro t _ hne
    rw [mem_addDue_iff h.sorted]
    by_cases ht : t = time
    · subst ht
      refine .inr ⟨rfl, ?_⟩
      rw [if_pos rfl]
      by_cases hzero : bitsAt t = 0
      · by_cases hthere : ∃ before, (t, before) ∈ due
        · obtain ⟨before, hbefore⟩ := hthere
          exact .inl ⟨before, hbefore, by rw [← h.bits _ hbefore]⟩
        · refine .inr ⟨fun before hbefore => hthere ⟨before, hbefore⟩, ?_⟩
          rw [hzero, UInt32.zero_or]
      · exact .inl ⟨_, h.complete t (Nat.zero_le _) hzero, rfl⟩
    · rw [if_neg (Ne.symm ht)] at hne ⊢
      exact .inl ⟨ht, h.complete t (Nat.zero_le _) hne⟩

/-- A line is started with **what arrives**, instant by instant. -/
theorem brings_start (pending : UInt32) (schedule : List (Nat × UInt32)) :
    Brings (start pending schedule).due 0 (arriving schedule) := by
  show Brings (schedule.foldl (fun due (e : Nat × UInt32) => InterruptLine.addDue e.1 e.2 due) [])
    0 _
  induction schedule using List.reverseRecOn with
  | nil => exact ⟨.nil, nofun, nofun, fun _ _ hne => absurd rfl hne⟩
  | append_singleton schedule e ih =>
    rw [List.foldl_append]
    have hadd := ih.addDue e.1 e.2
    simp only [← arriving_concat] at hadd
    exact hadd

/-- Interrupts are due when the schedule says so. -/
theorem exists_mem_of_mem_due {pending : UInt32} {schedule : List (Nat × UInt32)}
    {e : Nat × UInt32} (h : e ∈ (start pending schedule).due) : ∃ e' ∈ schedule, e'.1 = e.1 := by
  change e ∈ schedule.foldl (fun due (e : Nat × UInt32) => InterruptLine.addDue e.1 e.2 due) [] at h
  induction schedule using List.reverseRecOn generalizing e with
  | nil => cases h
  | append_singleton schedule last ih =>
    rw [List.foldl_append] at h
    rcases fst_of_mem_addDue h with htime | ⟨e', he', htime⟩
    · exact ⟨last, List.mem_concat_self, htime.symm⟩
    · obtain ⟨e'', he'', htime'⟩ := ih he'
      exact ⟨e'', List.mem_append_left _ he'', htime'.trans htime⟩

/-- The first of the interrupts that are due, and what is due after it. -/
theorem Brings.of_cons (h : Brings ((time, status) :: due) first bitsAt) :
    first ≤ time ∧ status = bitsAt time ∧ Brings due (time + 1) bitsAt ∧
      ∀ t, first ≤ t → t < time → bitsAt t = 0 := by
  obtain ⟨hfirst, hrest⟩ := List.pairwise_cons.mp h.sorted
  have hmem : (time, status) ∈ (time, status) :: due := List.mem_cons_self
  have hle : first ≤ time := h.le _ hmem
  refine ⟨hle, h.bits _ hmem, ⟨hrest, hfirst, fun e he => h.bits e (List.mem_cons_of_mem _ he),
    fun t ht hne => ?_⟩, fun t ht hlt => ?_⟩
  · rcases List.mem_cons.mp (h.complete t (by omega) hne) with heq | hdue
    · cases heq
      omega
    · exact hdue
  · by_contra hne
    rcases List.mem_cons.mp (h.complete t ht hne) with heq | hdue
    · cases heq
      omega
    · have := hfirst _ hdue
      omega

/-- Nothing arrives where **nothing is due**. -/
theorem Brings.eq_zero_of_nil (h : Brings [] first bitsAt) {t : Nat} (ht : first ≤ t) :
    bitsAt t = 0 := by
  by_contra hne
  cases h.complete t ht hne

/-- An instant is **the first** that brings any bit, of those from `first` on. -/
structure IsFirst (first : Nat) (bitsAt : Nat → UInt32) (time : Nat) : Prop where
  le : first ≤ time
  ne_zero : bitsAt time ≠ 0
  before : ∀ t, first ≤ t → t < time → bitsAt t = 0

/-- **The first that is due** before the deadline is found with its known bits, and what comes after
it is still due. If nothing arrives before the deadline, that is when the search ends. -/
theorem firstDue_spec (h : Brings due first bitsAt) (hdeadline : first ≤ deadline + 1) :
    (∃ time later, IsFirst first bitsAt time ∧ time ≤ deadline ∧
        firstDue deadline due = (some (bitsAt time &&& Status.known), ⟨0, time, later⟩) ∧
        Brings later (time + 1) bitsAt) ∨
      ∃ later, (∀ t, first ≤ t → t ≤ deadline → bitsAt t = 0) ∧
        firstDue deadline due = (none, ⟨0, deadline, later⟩) ∧
        Brings later (deadline + 1) bitsAt := by
  induction due generalizing first with
  | nil =>
    refine .inr ⟨[], fun t ht _ => h.eq_zero_of_nil ht, rfl, .nil, nofun, nofun, ?_⟩
    intro t ht hne
    exact absurd (h.eq_zero_of_nil (by omega)) hne
  | cons e due ih =>
    obtain ⟨time, status⟩ := e
    obtain ⟨hle, rfl, hdue, hbefore⟩ := h.of_cons
    rw [firstDue]
    split
    case isTrue hlate =>
      refine .inr ⟨_, fun t ht htd => hbefore t ht (by omega), rfl, h.sorted, ?_, h.bits, ?_⟩
      · intro e he
        rcases List.mem_cons.mp he with rfl | he
        · exact hlate
        · exact Nat.le_trans hlate (Nat.le_of_succ_le (hdue.le e he))
      · intro t ht hne
        exact h.complete t (by omega) hne
    case isFalse hintime =>
      split
      case isTrue hzero =>
        -- an instant without bits is slept through
        have hsilent : ∀ t, first ≤ t → t < time + 1 → bitsAt t = 0 := by
          intro t ht hlt
          rcases Nat.lt_succ_iff_lt_or_eq.mp hlt with hlt | rfl
          · exact hbefore t ht hlt
          · exact hzero
        rcases ih hdue (by omega) with ⟨found, later, hfound, hd, heq, hlater⟩ |
          ⟨later, hnone, heq, hlater⟩
        · refine .inl ⟨found, later, ⟨by have := hfound.le; omega, hfound.ne_zero, ?_⟩, hd, heq,
            hlater⟩
          intro t ht hlt
          by_cases htime : t < time + 1
          · exact hsilent t ht htime
          · exact hfound.before t (by omega) hlt
        · refine .inr ⟨later, ?_, heq, hlater⟩
          intro t ht htd
          by_cases htime : t < time + 1
          · exact hsilent t ht htime
          · exact hnone t (by omega) htd
      case isFalse hne =>
        exact .inl ⟨time, due, ⟨hle, hne, hbefore⟩, by omega, rfl, hdue⟩

/-- A search ends **no earlier** than anything it looks at is due. -/
theorem le_now_firstDue (hdue : ∀ e ∈ due, first ≤ e.1) (hdeadline : first ≤ deadline) :
    first ≤ (firstDue deadline due).2.now := by
  induction due with
  | nil => exact hdeadline
  | cons e due ih =>
    obtain ⟨htime, hdue⟩ := List.forall_mem_cons.mp hdue
    rw [firstDue]
    split
    · exact hdeadline
    · split
      · exact ih hdue
      · exact htime

/-- What is due after a search are the interrupts of **later instants**. -/
theorem due_firstDue (h : due.Pairwise fun a b => a.1 < b.1) :
    (firstDue deadline due).2.due =
      due.filter fun e => decide ((firstDue deadline due).2.now < e.1) := by
  induction due with
  | nil => rfl
  | cons e due ih =>
    obtain ⟨time, status⟩ := e
    obtain ⟨hfirst, hrest⟩ := List.pairwise_cons.mp h
    rw [firstDue]
    split
    case isTrue hlate =>
      refine (List.filter_eq_self.mpr fun e he => decide_eq_true ?_).symm
      rcases List.mem_cons.mp he with rfl | he
      · exact hlate
      · exact Nat.lt_trans hlate (hfirst e he)
    case isFalse hintime =>
      split
      case isTrue =>
        have hnow : time ≤ (firstDue deadline due).2.now :=
          le_now_firstDue (fun e he => Nat.le_of_lt (hfirst e he)) (Nat.le_of_not_lt hintime)
        rw [List.filter_cons_of_neg (by simpa using hnow)]
        exact ih hrest
      case isFalse =>
        have hself : due.filter (fun e => decide (time < e.1)) = due :=
          List.filter_eq_self.mpr fun e he => decide_eq_true (hfirst e he)
        rw [List.filter_cons_of_neg (by simp), hself]

end Brings

/-! ### Waiting for a bit -/

/-- The bits of an instant **decide a wait**: there is an error among them, or the awaited bit. -/
def Decides (awaited bits : UInt32) : Prop :=
  bits &&& Status.errors ≠ 0 ∨ bits &&& awaited = awaited

instance (awaited bits : UInt32) : Decidable (Decides awaited bits) :=
  inferInstanceAs (Decidable (_ ∨ _))

/-- **How a wait for a bit ends**, and when: as the first instant says that decides it, or else at
the deadline. -/
inductive EndsAs (bitsAt : Nat → UInt32) (awaited : UInt32) (first deadline : Nat) :
    WaitEnd → Nat → Prop
  | fault {time : Nat} (hfirst : first ≤ time) (htime : time ≤ deadline)
      (hbefore : ∀ t, first ≤ t → t < time → ¬ Decides awaited (bitsAt t))
      (herror : bitsAt time &&& Status.errors ≠ 0) :
      EndsAs bitsAt awaited first deadline (.fault (bitsAt time &&& Status.known)) time
  | done {time : Nat} (hfirst : first ≤ time) (htime : time ≤ deadline)
      (hbefore : ∀ t, first ≤ t → t < time → ¬ Decides awaited (bitsAt t))
      (herror : bitsAt time &&& Status.errors = 0) (hawaited : bitsAt time &&& awaited = awaited) :
      EndsAs bitsAt awaited first deadline .done time
  | timeout (hnone : ∀ t, first ≤ t → t ≤ deadline → ¬ Decides awaited (bitsAt t)) :
      EndsAs bitsAt awaited first deadline .timeout deadline

namespace EndsAs

variable {bitsAt : Nat → UInt32} {awaited : UInt32} {first later deadline stop stop' : Nat}
  {ending ending' : WaitEnd}

theorem le_stop (h : EndsAs bitsAt awaited first deadline ending stop)
    (hdeadline : first ≤ deadline + 1) : first ≤ stop + 1 := by
  cases h with
  | fault hfirst _ _ _ => omega
  | done hfirst _ _ _ _ => omega
  | timeout => exact hdeadline

/-- **How a wait ends, and when, is determined** by what arrives: there is only one first instant
that decides it, and that instant says how. -/
theorem unique (h : EndsAs bitsAt awaited first deadline ending stop)
    (h' : EndsAs bitsAt awaited first deadline ending' stop') :
    ending = ending' ∧ stop = stop' := by
  have hsame {t t' : Nat} (hfirst : first ≤ t) (hdecides : Decides awaited (bitsAt t))
      (hbefore : ∀ t₀, first ≤ t₀ → t₀ < t → ¬ Decides awaited (bitsAt t₀))
      (hfirst' : first ≤ t') (hdecides' : Decides awaited (bitsAt t'))
      (hbefore' : ∀ t₀, first ≤ t₀ → t₀ < t' → ¬ Decides awaited (bitsAt t₀)) : t = t' := by
    rcases Nat.lt_trichotomy t t' with hlt | heq | hgt
    · exact absurd hdecides (hbefore' t hfirst hlt)
    · exact heq
    · exact absurd hdecides' (hbefore t' hfirst' hgt)
  cases h with
  | fault hfirst htime hbefore herror =>
    cases h' with
    | fault hfirst' _ hbefore' herror' =>
      obtain rfl := hsame hfirst (.inl herror) hbefore hfirst' (.inl herror') hbefore'
      exact ⟨rfl, rfl⟩
    | done hfirst' _ hbefore' hclean' hawaited' =>
      obtain rfl := hsame hfirst (.inl herror) hbefore hfirst' (.inr hawaited') hbefore'
      exact absurd hclean' herror
    | timeout hnone => exact absurd (.inl herror) (hnone _ hfirst htime)
  | done hfirst htime hbefore hclean hawaited =>
    cases h' with
    | fault hfirst' _ hbefore' herror' =>
      obtain rfl := hsame hfirst (.inr hawaited) hbefore hfirst' (.inl herror') hbefore'
      exact absurd hclean herror'
    | done hfirst' _ hbefore' _ hawaited' =>
      exact ⟨rfl, hsame hfirst (.inr hawaited) hbefore hfirst' (.inr hawaited') hbefore'⟩
    | timeout hnone => exact absurd (.inr hawaited) (hnone _ hfirst htime)
  | timeout hnone =>
    cases h' with
    | fault hfirst' htime' _ herror' => exact absurd (.inl herror') (hnone _ hfirst' htime')
    | done hfirst' htime' _ _ hawaited' => exact absurd (.inr hawaited') (hnone _ hfirst' htime')
    | timeout => exact ⟨rfl, rfl⟩

/-- A wait ends no differently if it is looked at **from an earlier instant on**, before which
nothing decided it. -/
theorem of_later (h : EndsAs bitsAt awaited later deadline ending stop) (hfirst : first ≤ later)
    (hbefore : ∀ t, first ≤ t → t < later → ¬ Decides awaited (bitsAt t)) :
    EndsAs bitsAt awaited first deadline ending stop := by
  have hall (last : Nat) (hno : ∀ t, later ≤ t → t < last → ¬ Decides awaited (bitsAt t)) :
      ∀ t, first ≤ t → t < last → ¬ Decides awaited (bitsAt t) := by
    intro t ht hlt
    by_cases hlater : later ≤ t
    · exact hno t hlater hlt
    · exact hbefore t ht (Nat.lt_of_not_le hlater)
  cases h with
  | fault hlater htime hno herror =>
    exact .fault (Nat.le_trans hfirst hlater) htime (hall _ hno) herror
  | done hlater htime hno herror hawaited =>
    exact .done (Nat.le_trans hfirst hlater) htime (hall _ hno) herror hawaited
  | timeout hnone =>
    refine .timeout fun t ht htd => hall (deadline + 1) ?_ t ht (Nat.lt_succ_of_le htd)
    exact fun t ht hlt => hnone t ht (Nat.le_of_lt_succ hlt)

end EndsAs

/-- The known bits of every instant from `first` to `last` **that brings any bits**, in order. -/
def consumed (bitsAt : Nat → UInt32) (first last : Nat) : List UInt32 :=
  (((List.range' first (last + 1 - first)).map bitsAt).filter (· ≠ 0)).map (· &&& Status.known)

section Consumed

variable {bitsAt : Nat → UInt32} {first time last : Nat}

theorem consumed_append (hfirst : first ≤ time + 1) (hlast : time ≤ last) :
    consumed bitsAt first time ++ consumed bitsAt (time + 1) last = consumed bitsAt first last := by
  have hrange : List.range' first (time + 1 - first) ++
      List.range' (time + 1) (last + 1 - (time + 1)) = List.range' first (last + 1 - first) := by
    have hstart : first + 1 * (time + 1 - first) = time + 1 := by omega
    have hlength : last + 1 - first = time + 1 - first + (last + 1 - (time + 1)) := by omega
    rw [hlength, ← List.range'_append, hstart]
  simp only [consumed, ← hrange, List.map_append, List.filter_append]

/-- Instants without bits **leave nothing to consume**. -/
theorem filter_bits_eq_nil {length : Nat}
    (h : ∀ t, first ≤ t → t < first + length → bitsAt t = 0) :
    ((List.range' first length).map bitsAt).filter (· ≠ 0) = [] := by
  refine List.filter_eq_nil_iff.mpr fun bits hmem => ?_
  obtain ⟨t, ht, rfl⟩ := List.mem_map.mp hmem
  rw [List.mem_range'_1] at ht
  rw [h t ht.1 ht.2]
  decide

theorem consumed_eq_nil (h : ∀ t, first ≤ t → t ≤ last → bitsAt t = 0) :
    consumed bitsAt first last = [] := by
  rw [consumed, filter_bits_eq_nil fun t ht hlt => h t ht (by omega), List.map_nil]

/-- Up to the first instant that brings any bits, **nothing else is consumed**. -/
theorem consumed_of_isFirst (h : IsFirst first bitsAt time) :
    consumed bitsAt first time = [bitsAt time &&& Status.known] := by
  have hle := h.le
  have hlength : time + 1 - first = time - first + 1 := by omega
  have hsplit : List.range' first (time + 1 - first) =
      List.range' first (time - first) ++ [time] := by
    rw [hlength, List.range'_concat]
    congr 2
    omega
  have hself : [bitsAt time].filter (· ≠ 0) = [bitsAt time] :=
    List.filter_eq_self.mpr (by simpa using h.ne_zero)
  rw [consumed, hsplit, List.map_append, List.filter_append,
    filter_bits_eq_nil fun t ht hlt => h.before t ht (by omega), List.map_singleton, hself]
  rfl

end Consumed

section Await

variable {due : List (Nat × UInt32)} {first deadline : Nat} {bitsAt : Nat → UInt32}
  {awaited : UInt32}

/-- Where nothing arrives, nothing is decided. -/
theorem not_decides_of_eq_zero (hne : awaited ≠ 0) {bits : UInt32} (hzero : bits = 0) :
    ¬ Decides awaited bits := by
  rw [hzero]
  rintro (herror | hawaited)
  · exact herror UInt32.zero_and
  · exact hne (hawaited.symm.trans UInt32.zero_and)

variable (hknown : awaited &&& Status.known = awaited)
include hknown

/-- A status that is judged **decides as its bits do**, known or not. -/
theorem judge_known (bits : UInt32) :
    judge awaited (bits &&& Status.known) =
      if bits &&& Status.errors ≠ 0 then some (.fault (bits &&& Status.known))
      else if bits &&& awaited = awaited then some .done
      else none := by
  have herrors : Status.known &&& Status.errors = Status.errors := by decide
  rw [judge, UInt32.and_assoc, herrors, UInt32.and_assoc, UInt32.and_comm Status.known, hknown]

/-- A status that ends a wait **decides it as it ends**. -/
theorem endsAs_of_judge {time : Nat} {ending : WaitEnd}
    (h : judge awaited (bitsAt time &&& Status.known) = some ending)
    (hfirst : first ≤ time) (htime : time ≤ deadline)
    (hbefore : ∀ t, first ≤ t → t < time → ¬ Decides awaited (bitsAt t)) :
    EndsAs bitsAt awaited first deadline ending time := by
  rw [judge_known hknown] at h
  split at h
  case isTrue herror =>
    cases h
    exact .fault hfirst htime hbefore herror
  case isFalse herror =>
    split at h
    case isTrue hawaited =>
      cases h
      exact .done hfirst htime hbefore (of_not_not herror) hawaited
    case isFalse => cases h

/-- A status that is passed over **decides nothing**. -/
theorem not_decides_of_judge {bits : UInt32}
    (h : judge awaited (bits &&& Status.known) = none) : ¬ Decides awaited bits := by
  rw [judge_known hknown] at h
  rintro (herror | hawaited)
  · rw [if_pos herror] at h
    cases h
  · rw [if_pos hawaited] at h
    split at h <;> cases h

/-- **A wait ends as it should**: whatever is due on the way is consumed and passed over, and the
deadline stays. -/
theorem awaitDue_spec (hne : awaited ≠ 0) (h : Brings due first bitsAt)
    (hfirst : first ≤ deadline + 1) :
    ∃ stop later, EndsAs bitsAt awaited first deadline (awaitDue awaited deadline due).ending stop ∧
      (awaitDue awaited deadline due).line = ⟨0, stop, later⟩ ∧ Brings later (stop + 1) bitsAt ∧
      (awaitDue awaited deadline due).seen = consumed bitsAt first stop := by
  -- the recursion goes on from the instant after one that did not decide
  fun_induction awaitDue awaited deadline due generalizing first with
  | case1 due line hfound =>
    rcases firstDue_spec h hfirst with ⟨_, _, -, -, heq, -⟩ | ⟨later, hnone, heq, hlater⟩
    all_goals
      rw [heq] at hfound
      cases hfound
    exact ⟨deadline, later, .timeout fun t ht htd => not_decides_of_eq_zero hne (hnone t ht htd),
      rfl, hlater, (consumed_eq_nil hnone).symm⟩
  | case2 due status line hfound ending hjudge =>
    rcases firstDue_spec h hfirst with ⟨time, later, hisFirst, htime, heq, hlater⟩ |
      ⟨_, -, heq, -⟩
    all_goals
      rw [heq] at hfound
      cases hfound
    have hends := endsAs_of_judge hknown hjudge hisFirst.le htime fun t ht hlt =>
      not_decides_of_eq_zero hne (hisFirst.before t ht hlt)
    exact ⟨time, later, hends, rfl, hlater, (consumed_of_isFirst hisFirst).symm⟩
  | case3 due status line hfound hjudge rest =>
    rename_i ih
    rcases firstDue_spec h hfirst with ⟨time, later, hisFirst, htime, heq, hlater⟩ |
      ⟨_, -, heq, -⟩
    all_goals
      rw [heq] at hfound
      cases hfound
    obtain ⟨stop, later', hends, hline, hlater', hseen⟩ := ih hlater (by omega)
    have hbefore : ∀ t, first ≤ t → t < time + 1 → ¬ Decides awaited (bitsAt t) := by
      intro t ht hlt
      rcases Nat.lt_succ_iff_lt_or_eq.mp hlt with hlt | rfl
      · exact not_decides_of_eq_zero hne (hisFirst.before t ht hlt)
      · exact not_decides_of_judge hknown hjudge
    have hfirst : first ≤ time + 1 := Nat.le_succ_of_le hisFirst.le
    have hstop : time ≤ stop := Nat.le_of_succ_le_succ (hends.le_stop (by omega))
    refine ⟨stop, later', hends.of_later hfirst hbefore, hline, hlater', ?_⟩
    rw [← consumed_append hfirst hstop, consumed_of_isFirst hisFirst]
    exact congrArg _ hseen

end Await

/-! ### Waiting again -/

/-- A search leaves **nothing pending**. -/
theorem pending_firstDue (deadline : Nat) (due : List (Nat × UInt32)) :
    (firstDue deadline due).2.pending = 0 := by
  induction due with
  | nil => rfl
  | cons e due ih =>
    rw [firstDue]
    split
    case isTrue => rfl
    case isFalse =>
      split
      case isTrue => exact ih
      case isFalse => rfl

/-- A search is over **by the deadline**. -/
theorem now_firstDue_le (deadline : Nat) (due : List (Nat × UInt32)) :
    (firstDue deadline due).2.now ≤ deadline := by
  induction due with
  | nil => exact Nat.le_refl _
  | cons e due ih =>
    rw [firstDue]
    split
    case isTrue => exact Nat.le_refl _
    case isFalse hintime =>
      split
      case isTrue => exact ih
      case isFalse => exact Nat.le_of_not_lt hintime

theorem now_wait_le {l : InterruptLine} {deadline : Nat} (h : l.now ≤ deadline) :
    (l.wait deadline).2.now ≤ deadline := by
  rw [wait]
  split
  case isTrue => exact h
  case isFalse => exact now_firstDue_le deadline l.due

/-- Waiting for a bit **is waiting once, and again** if the status is passed over. -/
theorem await_eq (l : InterruptLine) (awaited : UInt32) (deadline : Nat) :
    l.await awaited deadline =
      match l.wait deadline with
      | (none, line) => ⟨[], .timeout, line⟩
      | (some status, line) =>
        match judge awaited status with
        | some ending => ⟨[status], ending, line⟩
        | none =>
          let rest := line.await awaited deadline
          { rest with seen := status :: rest.seen } := by
  have hagain {line : InterruptLine} (h : line.pending = 0) :
      line.await awaited deadline = awaitDue awaited deadline line.due :=
    if_neg (not_not_intro h)
  by_cases hpending : l.pending = 0
  · have hwait : l.wait deadline = firstDue deadline l.due := if_neg (not_not_intro hpending)
    have hleft := pending_firstDue deadline l.due
    rw [hagain hpending, hwait, awaitDue]
    split
    case h_1 heq => rw [heq]
    case h_2 status line heq =>
      rw [heq] at hleft ⊢
      cases hjudge : judge awaited status with
      | none => simp only [hjudge, hagain hleft]
      | some ending => simp only [hjudge]
  · have hwait : l.wait deadline = (some (l.pending &&& Status.known), l.clear) := if_pos hpending
    have hcleared : l.clear.await awaited deadline = awaitDue awaited deadline l.due := hagain rfl
    rw [await, if_pos hpending, hwait]
    cases hjudge : judge awaited (l.pending &&& Status.known) with
    | none => simp only [hjudge, hcleared]
    | some ending => simp only [hjudge]

/-- A wait on a line that was just started takes what is pending, or searches what is due. -/
theorem wait_start (pending : UInt32) (schedule : List (Nat × UInt32)) (deadline : Nat) :
    (start pending schedule).wait deadline =
      if pending ≠ 0 then (some (pending &&& Status.known), start 0 schedule)
      else firstDue deadline (start 0 schedule).due := rfl

/-- What has arrived **in the end**: what was pending, and all that was still to come. -/
theorem finish_eq (l : InterruptLine) : l.finish = l.pending ||| joined (l.due.map Prod.snd) := by
  rw [finish, ← foldl_or, List.foldl_map]

end InterruptLine

end Blitter
