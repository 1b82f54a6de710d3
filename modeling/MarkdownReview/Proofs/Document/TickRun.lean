import Mathlib.Data.List.Basic
import MarkdownReview.Document
/-!
Runs of ticks, and what the search for a closing run finds: the first maximal run of the width that
it looks for, or that there is none.
-/

namespace MarkdownReview.Document

/-- Ticks stand from `start` on, `width` of them and at least one, and no tick comes after them. -/
structure IsRun (text : Text) (start width : Nat) : Prop where
  positive : 0 < width
  ticks : ∀ i < width, text[start + i]? = some tick
  ends : text[start + width]? ≠ some tick

/-- A run of ticks that no tick comes before. -/
structure IsMaximalRun (text : Text) (start width : Nat) : Prop extends IsRun text start width where
  begins : ∀ i, i + 1 = start → text[i]? ≠ some tick

variable {text rest : Text} {c : Char} {start width seen offset past : Nat}

namespace IsRun

theorem first_tick (run : IsRun text start width) : text[start]? = some tick :=
  run.ticks 0 run.positive

theorem tick_of_mem (run : IsRun text start width) {i : Nat} (least : start ≤ i)
    (most : i < start + width) : text[i]? = some tick := by
  have inside := run.ticks (i - start) (by omega)
  rwa [Nat.add_sub_cancel' least] at inside

theorem stop_le_length (run : IsRun text start width) : start + width ≤ text.length := by
  have positive := run.positive
  have last := run.tick_of_mem (i := start + width - 1) (by omega) (by omega)
  have inside := (List.getElem?_eq_some_iff.mp last).1
  omega

theorem stop_eq {other otherWidth i : Nat} (run : IsRun text start width)
    (second : IsRun text other otherWidth) (least : start ≤ i) (most : i < start + width)
    (leastOther : other ≤ i) (mostOther : i < other + otherWidth) :
    start + width = other + otherWidth := by
  by_contra different
  rcases Nat.lt_or_gt_of_ne different with less | greater
  · exact run.ends (second.tick_of_mem (by omega) less)
  · exact second.ends (run.tick_of_mem (by omega) greater)

theorem width_unique {other : Nat} (run : IsRun text start width)
    (second : IsRun text start other) : width = other := by
  have positive := run.positive
  have same := run.stop_eq second (Nat.le_refl start) (by omega) (Nat.le_refl start)
    (by have := second.positive; omega)
  omega

theorem stop_le_start {other otherWidth : Nat} (run : IsRun text start width)
    (second : IsMaximalRun text other otherWidth) (later : start < other) :
    start + width ≤ other := by
  by_contra inside
  exact second.begins (other - 1) (by omega) (run.tick_of_mem (by omega) (by omega))

end IsRun

theorem isMaximalRun_run_cons_iff (other : c ≠ tick) :
    IsMaximalRun (List.replicate seen tick ++ c :: rest) start width ↔
      (start = 0 ∧ seen = width ∧ 0 < width) ∨
        ∃ later, start = seen + 1 + later ∧ IsMaximalRun rest later width := by
  constructor
  · rintro ⟨⟨positive, ticks, ends⟩, begins⟩
    by_cases inside : start < seen
    · have atStart : start = 0 := by
        have before := begins (start - 1)
        grind
      have upTo := ticks seen
      exact Or.inl (by grind)
    · have first := ticks 0 positive
      have past : start ≠ seen := by grind
      refine Or.inr ⟨start - (seen + 1), by omega, ⟨positive, ?_, by grind⟩, ?_⟩
      · intro i within
        have standing := ticks i within
        grind
      · intro i precedes
        have before := begins (seen + 1 + i) (by omega)
        grind
  · rintro (⟨rfl, rfl, positive⟩ | ⟨later, rfl, ⟨positive, ticks, ends⟩, begins⟩)
    · exact ⟨⟨positive, by grind, by grind⟩, by grind⟩
    · refine ⟨⟨positive, ?_, by grind⟩, ?_⟩
      · intro i within
        have standing := ticks i within
        grind
      · intro i precedes
        have before := begins (later - 1)
        grind

theorem isMaximalRun_replicate_iff :
    IsMaximalRun (List.replicate seen tick) start width ↔ start = 0 ∧ seen = width ∧ 0 < width := by
  constructor
  · rintro ⟨⟨positive, ticks, ends⟩, begins⟩
    have first := ticks 0 positive
    have last := ticks (width - 1)
    have before := begins (start - 1)
    grind
  · rintro ⟨rfl, rfl, positive⟩
    exact ⟨⟨positive, by grind, by grind⟩, by grind⟩

theorem isMaximalRun_drop_iff (other : text[offset]? ≠ some tick) :
    IsMaximalRun (text.drop offset) start width ↔ IsMaximalRun text (offset + start) width := by
  constructor
  · rintro ⟨⟨positive, ticks, ends⟩, begins⟩
    have first := ticks 0 positive
    refine ⟨⟨positive, ?_, by grind⟩, ?_⟩
    · intro i within
      have standing := ticks i within
      grind
    · intro i precedes
      have before := begins (start - 1)
      grind
  · rintro ⟨⟨positive, ticks, ends⟩, begins⟩
    refine ⟨⟨positive, ?_, by grind⟩, ?_⟩
    · intro i within
      have standing := ticks i within
      grind
    · intro i precedes
      have before := begins (offset + i) (by omega)
      grind

structure IsFirstRun (text : Text) (start width : Nat) : Prop where
  maximal : IsMaximalRun text start width
  first : ∀ earlier < start, ¬IsMaximalRun text earlier width

/-- The search has read `seen` ticks of a run and reads the text next. -/
theorem isFirstRun_of_closing_eq_some (positive : 0 < width)
    (found : closing width seen offset text = some past) :
    ∃ start, IsFirstRun (List.replicate seen tick ++ text) start width ∧
      past + seen = offset + start + width := by
  induction text generalizing seen offset with
  | nil =>
    simp only [closing, Option.ite_none_right_eq_some, Option.some_inj] at found
    obtain ⟨rfl, rfl⟩ := found
    refine ⟨0, ⟨?_, fun earlier less => absurd less (Nat.not_lt_zero earlier)⟩, by omega⟩
    rw [List.append_nil]
    exact isMaximalRun_replicate_iff.mpr ⟨rfl, rfl, positive⟩
  | cons c rest ih =>
    rw [closing] at found
    by_cases isTick : c = tick
    · rw [if_pos isTick] at found
      obtain ⟨start, isFirst, ends⟩ := ih found
      refine ⟨start, ?_, by omega⟩
      rw [isTick, List.append_cons, ← List.replicate_succ']
      exact isFirst
    · rw [if_neg isTick] at found
      by_cases full : seen = width
      · rw [if_pos full, Option.some_inj] at found
        refine ⟨0, ⟨?_, fun earlier less => absurd less (Nat.not_lt_zero earlier)⟩, by omega⟩
        exact (isMaximalRun_run_cons_iff isTick).mpr (Or.inl ⟨rfl, full, positive⟩)
      · rw [if_neg full] at found
        obtain ⟨start, isFirst, ends⟩ := ih found
        rw [List.replicate_zero, List.nil_append] at isFirst
        refine ⟨seen + 1 + start, ⟨?_, ?_⟩, by omega⟩
        · exact (isMaximalRun_run_cons_iff isTick).mpr (Or.inr ⟨start, rfl, isFirst.maximal⟩)
        · intro earlier less run
          rcases (isMaximalRun_run_cons_iff isTick).mp run with
            ⟨-, same, -⟩ | ⟨later, rfl, runLater⟩
          · exact full same
          · exact isFirst.first later (by omega) runLater

theorem not_isMaximalRun_of_closing_eq_none (missing : closing width seen offset text = none)
    (start : Nat) : ¬IsMaximalRun (List.replicate seen tick ++ text) start width := by
  induction text generalizing seen offset start with
  | nil =>
    simp only [closing, ite_eq_right_iff, reduceCtorEq, imp_false] at missing
    rw [List.append_nil, isMaximalRun_replicate_iff]
    exact fun run => missing run.2.1
  | cons c rest ih =>
    rw [closing] at missing
    by_cases isTick : c = tick
    · rw [if_pos isTick] at missing
      rw [isTick, List.append_cons, ← List.replicate_succ']
      exact ih missing start
    · rw [if_neg isTick] at missing
      by_cases full : seen = width
      · rw [if_pos full] at missing
        cases missing
      · rw [if_neg full] at missing
        rw [isMaximalRun_run_cons_iff isTick]
        rintro (⟨-, same, -⟩ | ⟨later, -, run⟩)
        · exact full same
        · exact ih missing later run

end MarkdownReview.Document
