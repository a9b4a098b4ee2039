import Blitter.Text.Blank
import Mathlib.Data.List.TakeWhile

/-!
# What taking blanks off leaves

`IsTrimmed` says of two texts that the second is what is left of the first without the blank
characters at its ends. There is exactly one such text, and `trimChars` finds it
(`isTrimmed_iff`).
-/

namespace Blitter.Text

/-- `inner` is what is left of `cs` when the blank characters at both ends are **taken off**. -/
structure IsTrimmed (cs inner : List Char) : Prop where
  ends : ∃ before after, cs = before ++ inner ++ after ∧ ∀ c ∈ before ++ after, isBlank c = true
  first : ∀ c ∈ inner.head?, isBlank c = false
  last : ∀ c ∈ inner.getLast?, isBlank c = false

/-- Blank characters in front of one that is not blank are dropped, **and no others**. -/
theorem dropWhile_isBlank_append {blanks cs : List Char} (hblanks : ∀ c ∈ blanks, isBlank c = true)
    (hfirst : ∀ c ∈ cs.head?, isBlank c = false) : (blanks ++ cs).dropWhile isBlank = cs := by
  rw [List.dropWhile_append_of_pos hblanks]
  cases cs with
  | nil => rfl
  | cons c cs => exact List.dropWhile_cons_of_neg (by simp [hfirst c rfl])

theorem head?_dropWhile_isBlank {cs : List Char} {c : Char}
    (hc : c ∈ (cs.dropWhile isBlank).head?) : isBlank c = false := by
  have hnot := List.head?_dropWhile_not isBlank cs
  rw [hc] at hnot
  exact hnot

theorem isTrimmed_trimChars (cs : List Char) : IsTrimmed cs (trimChars cs) := by
  obtain ⟨rest, hrest⟩ : ∃ rest, cs.dropWhile isBlank = rest := ⟨_, rfl⟩
  have hinner : trimChars cs = (rest.reverse.dropWhile isBlank).reverse := by
    rw [trimChars, hrest]
  have hback : rest = trimChars cs ++ (rest.reverse.takeWhile isBlank).reverse := by
    rw [hinner, ← List.reverse_append, List.takeWhile_append_dropWhile, List.reverse_reverse]
  refine ⟨⟨cs.takeWhile isBlank, (rest.reverse.takeWhile isBlank).reverse, ?_, ?_⟩, ?_, ?_⟩
  · rw [List.append_assoc, ← hback, ← hrest, List.takeWhile_append_dropWhile]
  · intro c hc
    rw [List.mem_append, List.mem_reverse] at hc
    rcases hc with hc | hc
    · exact List.mem_takeWhile_imp hc
    · exact List.mem_takeWhile_imp hc
  · intro c hc
    -- what is in front of all that is left is in front of what blanks follow it, too
    have hfront : c ∈ rest.head? := by
      rw [hback, List.head?_append, Option.mem_def.mp hc]
      exact rfl
    rw [← hrest] at hfront
    exact head?_dropWhile_isBlank hfront
  · intro c hc
    rw [hinner, List.getLast?_reverse] at hc
    exact head?_dropWhile_isBlank hc

/-- **Only one text is left** without the blanks. -/
theorem IsTrimmed.trimChars_eq {cs inner : List Char} (h : IsTrimmed cs inner) :
    trimChars cs = inner := by
  obtain ⟨⟨before, after, rfl, hblank⟩, hfirst, hlast⟩ := h
  obtain ⟨hbefore, hafter⟩ := List.forall_mem_append.mp hblank
  have hback : ∀ c ∈ after.reverse, isBlank c = true := by simpa using hafter
  cases inner with
  | nil =>
    have hnone : (before ++ [] ++ after).dropWhile isBlank = [] := by
      rw [List.append_nil, List.dropWhile_eq_nil_iff]
      exact hblank
    rw [trimChars, hnone]
    rfl
  | cons c cs =>
    have hfront : (before ++ (c :: cs) ++ after).dropWhile isBlank = c :: cs ++ after := by
      rw [List.append_assoc]
      exact dropWhile_isBlank_append hbefore hfirst
    rw [trimChars, hfront, List.reverse_append, dropWhile_isBlank_append hback,
      List.reverse_reverse]
    rw [List.head?_reverse]
    exact hlast

theorem isTrimmed_iff {cs inner : List Char} : IsTrimmed cs inner ↔ inner = trimChars cs :=
  ⟨fun h => h.trimChars_eq.symm, fun h => h ▸ isTrimmed_trimChars cs⟩

end Blitter.Text
