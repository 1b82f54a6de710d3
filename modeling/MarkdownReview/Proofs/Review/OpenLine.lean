import Mathlib.Data.List.Sort
import MarkdownReview.Proofs.Review.Uncovered
/-!
What the scan for open lines finds: exactly the lines that no fence covers and that may hold code,
each with its number and with the offset at which it starts, in the order of the document.
-/

namespace MarkdownReview

namespace Document

theorem covered_getElem? (state : FenceState) (before : List Text) (line : Text)
    (after : List Text) :
    (state.covered (before ++ line :: after))[before.length]? =
      some ((state.after before).covers line) := by
  simp [FenceState.getElem?_covered]

end Document

namespace OpenLine

open Document (FenceState)

theorem mayHoldCode_eq_true_iff {line : Text} :
    mayHoldCode line = true ↔ Text.trim line ≠ [] ∧ ¬[headingMark] <+: Text.trim line := by
  rw [mayHoldCode]
  cases Text.trim line with
  | nil => simp
  | cons c rest =>
    have starts : [headingMark] <+: c :: rest ↔ c = headingMark := by
      rw [List.cons_prefix_cons, and_iff_left List.nil_prefix, eq_comm]
    simp [starts]

theorem mem_scan_iff {state : FenceState} {number start : Nat} {lines : List Text}
    {found : OpenLine} :
    found ∈ scan state number start lines ↔
      ∃ before after, lines = before ++ found.text :: after ∧
        found.number = number + before.length ∧ found.start = start + Document.extent before ∧
        (state.after before).covers found.text = false ∧ mayHoldCode found.text = true := by
  rw [scan_eq_filter, List.mem_filter, mem_uncovered_iff]
  simp only [← and_assoc, exists_and_right]

theorem scan_pairwise (state : FenceState) (number start : Nat) (lines : List Text) :
    (scan state number start lines).Pairwise fun first second =>
      first.number < second.number ∧ first.start + first.text.length < second.start := by
  rw [scan_eq_filter]
  exact (uncovered_pairwise state number start lines).filter _

theorem stands_of_mem {lines : List Text} {found : OpenLine} (member : found ∈ ofLines lines) :
    Document.line? lines found.number = some found.text ∧
      Document.lineStart lines found.number = found.start ∧
      (Document.covered lines)[found.number - 1]? = some false := by
  obtain ⟨before, after, rfl, numbered, starts, uncovered, -⟩ := mem_scan_iff.mp member
  have number : (found.number : Int) = before.length + 1 := by omega
  have index : found.number - 1 = before.length := by omega
  have start : found.start = Document.extent before := by omega
  refine ⟨Document.line?_eq_some_iff.mpr ⟨before, after, rfl, number⟩, ?_, ?_⟩
  · rw [number, Document.lineStart_append, start]
  · rw [index, Document.covered, Document.covered_getElem?, uncovered]

end OpenLine
end MarkdownReview

/-!
Which lines an analysis is about. What it finds on uncovered lines names them by their numbers: each
line of which something holds once, in ascending order, and no other line.
-/

namespace MarkdownReview

namespace Document

/-- The line with this number is in the document, and no fence covers it. -/
def IsUncovered (lines : List Text) (number : Int) (line : Text) : Prop :=
  line? lines number = some line ∧ (covered lines)[(number - 1).toNat]? = some false

theorem isUncovered_append_cons_iff {before after : List Text} {line other : Text} :
    IsUncovered (before ++ line :: after) (before.length + 1) other ↔
      other = line ∧ (FenceState.after {} before).covers line = false := by
  have isLine : line? (before ++ line :: after) (before.length + 1) = some line :=
    line?_eq_some_iff.mpr ⟨before, after, rfl, rfl⟩
  rw [IsUncovered, isLine, Option.some_inj, eq_comm, Int.add_sub_cancel, Int.toNat_natCast,
    covered, covered_getElem?, Option.some_inj]

theorem isUncovered_iff {lines : List Text} {number : Int} {line : Text} :
    IsUncovered lines number line ↔
      ∃ before after, lines = before ++ line :: after ∧ number = before.length + 1 ∧
        (FenceState.after {} before).covers line = false := by
  constructor
  · intro stands
    obtain ⟨before, after, rfl, rfl⟩ := line?_eq_some_iff.mp stands.1
    exact ⟨before, after, rfl, rfl, (isUncovered_append_cons_iff.mp stands).2⟩
  · intro stands
    obtain ⟨before, after, rfl, rfl, free⟩ := stands
    exact isUncovered_append_cons_iff.mpr ⟨rfl, free⟩

/-- The numbers of the uncovered lines of which something holds, each once and in ascending order. -/
structure Enumerates (lines : List Text) (holds : Text → Prop) (numbers : List Int) : Prop where
  ascends : numbers.Pairwise (· < ·)
  mem_iff : ∀ number, number ∈ numbers ↔ ∃ line, IsUncovered lines number line ∧ holds line

theorem Enumerates.disjoint {lines : List Text} {holds other : Text → Prop}
    {first second : List Int} (ofFirst : Enumerates lines holds first)
    (ofSecond : Enumerates lines other second) (apart : ∀ line, holds line → ¬other line) :
    List.Disjoint first second := by
  intro number inFirst inSecond
  obtain ⟨line, ⟨isLine, -⟩, holdsHere⟩ := (ofFirst.mem_iff number).mp inFirst
  obtain ⟨same, ⟨isSame, -⟩, otherHere⟩ := (ofSecond.mem_iff number).mp inSecond
  rw [isLine, Option.some_inj] at isSame
  exact apart line holdsHere (isSame ▸ otherHere)

theorem Enumerates.unique {lines : List Text} {holds : Text → Prop} {first second : List Int}
    (one : Enumerates lines holds first) (other : Enumerates lines holds second) :
    first = second := by
  apply List.Pairwise.eq_of_mem_iff one.ascends other.ascends
  intro number
  rw [one.mem_iff, other.mem_iff]

theorem Enumerates.eq_nil_iff {lines : List Text} {holds : Text → Prop} {numbers : List Int}
    (all : Enumerates lines holds numbers) :
    numbers = [] ↔ ¬∃ number line, IsUncovered lines number line ∧ holds line := by
  simp only [List.eq_nil_iff_forall_not_mem, all.mem_iff, not_exists]

end Document

open Document (IsUncovered Enumerates)

namespace OpenLine

theorem exists_mem_uncovered_iff {lines : List Text} {number : Int} {line : Text} :
    (∃ found ∈ uncovered {} 1 0 lines, (found.number : Int) = number ∧ found.text = line) ↔
      IsUncovered lines number line := by
  rw [Document.isUncovered_iff]
  constructor
  · intro some
    obtain ⟨found, member, rfl, rfl⟩ := some
    obtain ⟨before, after, split, numbered, -, free⟩ := mem_uncovered_iff.mp member
    exact ⟨before, after, split, by omega, free⟩
  · intro stands
    obtain ⟨before, after, split, rfl, free⟩ := stands
    refine ⟨⟨1 + before.length, 0 + Document.extent before, line⟩, ?_, ?_, rfl⟩
    · exact mem_uncovered_iff.mpr ⟨before, after, split, rfl, rfl, free⟩
    · push_cast
      omega

variable {α : Type} {read : OpenLine → Option α} {number : α → Int} {holds : Text → Prop}

/-- Findings that are read off the texts of uncovered lines, and that say which lines these are. -/
theorem enumerates_uncovered (reads : ∀ line, (read line).isSome = true ↔ holds line.text)
    (numbered : ∀ line finding, read line = some finding → number finding = line.number)
    (lines : List Text) :
    Enumerates lines holds (((uncovered {} 1 0 lines).filterMap read).map number) := by
  constructor
  case ascends =>
    rw [List.pairwise_map, List.pairwise_filterMap]
    apply (uncovered_pairwise {} 1 0 lines).imp
    intro first second earlier finding found other foundLater
    rw [numbered first finding found, numbered second other foundLater]
    exact Int.ofNat_lt.mpr earlier.1
  case mem_iff =>
    intro wanted
    simp only [List.mem_map, List.mem_filterMap, ← exists_mem_uncovered_iff]
    constructor
    · intro named
      obtain ⟨finding, ⟨line, member, found⟩, rfl⟩ := named
      have holds := (reads line).mp (Option.isSome_of_eq_some found)
      exact ⟨line.text, ⟨line, member, (numbered line finding found).symm, rfl⟩, holds⟩
    · intro stands
      obtain ⟨text, ⟨line, member, rfl, rfl⟩, holds⟩ := stands
      obtain ⟨finding, found⟩ := Option.isSome_iff_exists.mp ((reads line).mpr holds)
      exact ⟨finding, ⟨line, member, found⟩, numbered line finding found⟩

theorem enumerates_ofLines (reads : ∀ line, (read line).isSome = true ↔ holds line.text)
    (numbered : ∀ line finding, read line = some finding → number finding = line.number)
    (lines : List Text) :
    Enumerates lines (fun line => mayHoldCode line = true ∧ holds line)
      (((ofLines lines).filterMap read).map number) := by
  rw [ofLines, scan_eq_filter, List.filterMap_filter]
  apply enumerates_uncovered
  · intro line
    cases mayHoldCode line.text with
    | true => simp [reads]
    | false => simp
  · intro line finding found
    exact numbered line finding (Option.ite_none_right_eq_some.mp found).2

end OpenLine
end MarkdownReview
