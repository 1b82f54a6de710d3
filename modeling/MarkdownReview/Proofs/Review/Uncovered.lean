import Mathlib.Data.List.Basic
import MarkdownReview.Proofs.Document.Line
import MarkdownReview.Review
/-!
The lines that no fence covers, and all that the scans for open lines and for heading lines look at.
Both scans are filters of this one, so what holds of it under a change of the document holds for
every analysis, and both find what they look for in its order.
-/

namespace MarkdownReview

namespace OpenLine

open Document (FenceState)

/-- The uncovered lines among lines that a scan in the given state meets next, whatever they hold. -/
def uncovered : FenceState → (number start : Nat) → List Text → List OpenLine
  | _, _, _, [] => []
  | state, number, start, line :: rest =>
    let later := uncovered (state.step line) (number + 1) (start + line.length + 1) rest
    if state.covers line then later else ⟨number, start, line⟩ :: later

theorem mem_uncovered_cons_iff {state : FenceState} {number start : Nat} {line : Text}
    {rest : List Text} {found : OpenLine} :
    found ∈ uncovered state number start (line :: rest) ↔
      (found = ⟨number, start, line⟩ ∧ state.covers line = false) ∨
        found ∈ uncovered (state.step line) (number + 1) (start + line.length + 1) rest := by
  rw [uncovered]
  cases state.covers line with
  | true => simp only [if_true, Bool.true_eq_false, and_false, false_or]
  | false => simp only [Bool.false_eq_true, if_false, List.mem_cons, and_true]

theorem mem_uncovered_iff {state : FenceState} {number start : Nat} {lines : List Text}
    {found : OpenLine} :
    found ∈ uncovered state number start lines ↔
      ∃ before after, lines = before ++ found.text :: after ∧
        found.number = number + before.length ∧ found.start = start + Document.extent before ∧
        (state.after before).covers found.text = false := by
  induction lines generalizing state number start with
  | nil => simp [uncovered]
  | cons line rest ih =>
    rw [mem_uncovered_cons_iff, ih]
    refine ⟨?_, ?_⟩
    · intro either
      rcases either with
        ⟨rfl, free⟩ | ⟨before, after, rfl, numbered, starts, free⟩
      · exact ⟨[], rest, rfl, rfl, rfl, free⟩
      · refine ⟨line :: before, after, rfl, ?_, ?_, free⟩
        · rw [numbered, List.length_cons]
          omega
        · rw [starts, Document.extent]
          omega
    · intro cut
      obtain ⟨before, after, whole, numbered, starts, free⟩ := cut
      cases before with
      | nil =>
        obtain ⟨rfl, rfl⟩ := List.cons.inj whole
        refine Or.inl ⟨?_, free⟩
        cases found
        simp only [List.length_nil, Document.extent, Nat.add_zero] at numbered starts
        rw [numbered, starts]
      | cons first before =>
        obtain ⟨rfl, rfl⟩ := List.cons.inj whole
        refine Or.inr ⟨before, after, rfl, ?_, ?_, free⟩
        · rw [numbered, List.length_cons]
          omega
        · rw [starts, Document.extent]
          omega

theorem uncovered_pairwise (state : FenceState) (number start : Nat) (lines : List Text) :
    (uncovered state number start lines).Pairwise fun first second =>
      first.number < second.number ∧ first.start + first.text.length < second.start := by
  induction lines generalizing state number start with
  | nil => exact List.Pairwise.nil
  | cons line rest ih =>
    rw [uncovered]
    split
    · exact ih _ _ _
    · refine List.Pairwise.cons ?_ (ih _ _ _)
      intro later member
      obtain ⟨before, -, -, numbered, starts, -⟩ := mem_uncovered_iff.mp member
      rw [numbered, starts]
      refine ⟨?_, ?_⟩
      · change number < number + 1 + before.length
        omega
      · change start + line.length < start + line.length + 1 + Document.extent before
        omega

theorem scan_eq_filter (state : FenceState) (number start : Nat) (lines : List Text) :
    scan state number start lines =
      (uncovered state number start lines).filter fun line => mayHoldCode line.text := by
  induction lines generalizing state number start with
  | nil => rfl
  | cons line rest ih =>
    rw [scan, uncovered, ih]
    cases state.covers line with
    | true => rfl
    | false =>
      cases holds : mayHoldCode line <;>
        simp only [Bool.not_false, Bool.true_and, Bool.false_eq_true, if_true, if_false,
          List.filter_cons, holds]

theorem uncovered_congr {state other : FenceState} (same : other.inside = state.inside)
    (number start : Nat) (lines : List Text) :
    uncovered other number start lines = uncovered state number start lines := by
  induction lines generalizing state other number start with
  | nil => rfl
  | cons line rest ih =>
    rw [uncovered, uncovered, FenceState.covers_congr same,
      ih (FenceState.inside_step_congr same line)]

theorem uncovered_append (state : FenceState) (number start : Nat) (first second : List Text) :
    uncovered state number start (first ++ second) =
      uncovered state number start first ++
        uncovered (state.after first) (number + first.length)
          (start + Document.extent first) second := by
  induction first generalizing state number start with
  | nil => rfl
  | cons line rest ih =>
    have count : number + (line :: rest).length = number + 1 + rest.length := by
      rw [List.length_cons]
      omega
    have extent : start + Document.extent (line :: rest) =
        start + line.length + 1 + Document.extent rest := by
      rw [Document.extent]
      omega
    rw [List.cons_append, uncovered, uncovered, ih, count, extent]
    cases state.covers line <;> rfl

theorem scan_congr {state other : FenceState} (same : other.inside = state.inside)
    (number start : Nat) (lines : List Text) :
    scan other number start lines = scan state number start lines := by
  rw [scan_eq_filter, scan_eq_filter, uncovered_congr same]

theorem scan_append (state : FenceState) (number start : Nat) (first second : List Text) :
    scan state number start (first ++ second) =
      scan state number start first ++
        scan (state.after first) (number + first.length) (start + Document.extent first) second := by
  rw [scan_eq_filter, scan_eq_filter, scan_eq_filter, uncovered_append, List.filter_append]

end OpenLine

namespace HeadingLine

open Document (FenceState)

theorem scan_eq_filterMap (state : FenceState) (number start : Nat) (lines : List Text) :
    scan state number lines =
      (OpenLine.uncovered state number start lines).filterMap fun line =>
        (ofLine? line.text).map (line.number, ·) := by
  induction lines generalizing state number start with
  | nil => rfl
  | cons line rest ih =>
    rw [scan, OpenLine.uncovered, ih (state.step line) (number + 1) (start + line.length + 1)]
    cases state.covers line with
    | true => rfl
    | false =>
      cases heading : ofLine? line <;>
        simp only [Bool.false_eq_true, if_false, List.filterMap_cons, heading, Option.map_none,
          Option.map_some]

theorem scan_congr {state other : FenceState} (same : other.inside = state.inside) (number : Nat)
    (lines : List Text) : scan other number lines = scan state number lines := by
  rw [scan_eq_filterMap other number 0, scan_eq_filterMap state number 0,
    OpenLine.uncovered_congr same]

theorem scan_append (state : FenceState) (number : Nat) (first second : List Text) :
    scan state number (first ++ second) =
      scan state number first ++ scan (state.after first) (number + first.length) second := by
  rw [scan_eq_filterMap state number 0, scan_eq_filterMap state number 0 first,
    scan_eq_filterMap (state.after first) (number + first.length) (0 + Document.extent first),
    OpenLine.uncovered_append, List.filterMap_append]

end HeadingLine
end MarkdownReview
