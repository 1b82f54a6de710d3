import Mathlib.Algebra.Ring.Int.Defs
import Mathlib.Data.List.Forall2
import MarkdownReview.Proofs.Review.CodeUse
import MarkdownReview.Proofs.Review.Concatenation
/-!
What stands inside a fence has no influence. Documents that differ only in lines that a fence covers
have the same headings, hints and findings, and the same code uses but for their offsets, which
count the covered text before them.
-/

namespace MarkdownReview

namespace Document

/-- The second document has the lines of the first, but for some that a fence covers there and that
are no markers, neither before nor after. The first line is met in the given state. -/
def SameOutsideFences (state : FenceState) (first second : List Text) : Prop :=
  List.Forall₂
    (fun entry other => other = entry.1 ∨
      entry.2 = true ∧ isMarker entry.1 = false ∧ isMarker other = false)
    (first.zip (state.covered first)) second

instance (state : FenceState) (first second : List Text) :
    Decidable (SameOutsideFences state first second) :=
  decidable_of_iff
    ((first.zip (state.covered first)).length = second.length ∧
      ∀ pair ∈ (first.zip (state.covered first)).zip second, pair.2 = pair.1.1 ∨
        pair.1.2 = true ∧ isMarker pair.1.1 = false ∧ isMarker pair.2 = false)
    (by rw [SameOutsideFences, List.forall₂_iff_zip, Prod.forall])

/-- How much longer the lines before a numbered one are in the second document. -/
def lengthChange (first second : List Text) (number : Int) : Int :=
  ((List.zipWith (fun line other => (other.length : Int) - line.length) first second).take
    (number - 1).toNat).sum

variable {state : FenceState} {first second : List Text}

theorem sameOutsideFences_cons_iff {line : Text} {rest : List Text} :
    SameOutsideFences state (line :: rest) second ↔
      ∃ other others, second = other :: others ∧ SameOutsideFences (state.step line) rest others ∧
        (other = line ∨ state.covers line = true ∧ state.covers other = true ∧
          isMarker line = false ∧ isMarker other = false) := by
  rw [SameOutsideFences, FenceState.covered, List.zip_cons_cons, List.forall₂_cons_left_iff]
  constructor
  · intro cut
    obtain ⟨other, others, same, later, rfl⟩ := cut
    refine ⟨other, others, rfl, later, same.imp_right ?_⟩
    intro replaced
    obtain ⟨covered, old, new⟩ := replaced
    refine ⟨covered, ?_, old, new⟩
    rw [← covered, FenceState.covers, FenceState.covers, old, new]
  · intro cut
    obtain ⟨other, others, rfl, later, same⟩ := cut
    refine ⟨other, others, same.imp_right ?_, later, rfl⟩
    intro replaced
    exact ⟨replaced.1, replaced.2.2⟩

theorem SameOutsideFences.length_eq (same : SameOutsideFences state first second) :
    second.length = first.length := by
  have lengths := List.Forall₂.length_eq same
  rw [List.length_zip, length_covered, Nat.min_self] at lengths
  exact lengths.symm

theorem SameOutsideFences.countMarkers_eq (same : SameOutsideFences state first second) :
    countMarkers second = countMarkers first := by
  induction first generalizing state second with
  | nil =>
    cases same
    rfl
  | cons line rest ih =>
    obtain ⟨other, others, rfl, later, either⟩ := sameOutsideFences_cons_iff.mp same
    have rest := ih later
    simp only [countMarkers, List.countP_cons] at rest ⊢
    rcases either with rfl | ⟨-, -, old, new⟩
    · rw [rest]
    · rw [rest, old, new]

theorem extent_eq_add_sum (same : second.length = first.length) :
    (extent second : Int) = extent first +
      (List.zipWith (fun line other => (other.length : Int) - line.length) first second).sum := by
  induction first generalizing second with
  | nil =>
    rw [List.eq_nil_of_length_eq_zero same]
    rfl
  | cons line rest ih =>
    obtain ⟨other, others, rfl⟩ := List.exists_cons_of_length_eq_add_one same
    have later := ih (Nat.succ.inj same)
    simp only [extent, List.zipWith_cons_cons, List.sum_cons]
    push_cast
    omega

theorem lineStart_eq_add_lengthChange (same : second.length = first.length) {number : Int}
    (positive : 1 ≤ number) :
    (lineStart second number : Int) = lineStart first number + lengthChange first second number := by
  have lengths : (second.take (number - 1).toNat).length =
      (first.take (number - 1).toNat).length := by
    rw [List.length_take, List.length_take, same]
  rw [lineStart_eq_extent_take positive, lineStart_eq_extent_take positive, lengthChange,
    List.take_zipWith]
  exact extent_eq_add_sum lengths

end Document

open Document (FenceState SameOutsideFences lengthChange lineStart lines)

namespace OpenLine

variable {state : FenceState} {first second : List Text}

theorem uncovered_map_startingAt (same : SameOutsideFences state first second)
    (starts : Nat → Nat) (number start other : Nat) :
    (uncovered state number other second).map (startingAt starts) =
      (uncovered state number start first).map (startingAt starts) := by
  induction first generalizing state second number start other with
  | nil =>
    cases same
    rfl
  | cons line rest ih =>
    obtain ⟨replacement, others, rfl, later, either⟩ :=
      Document.sameOutsideFences_cons_iff.mp same
    rcases either with kept | ⟨covered, stillCovered, old, new⟩
    · have rest := ih later (number + 1) (start + line.length + 1) (other + line.length + 1)
      rw [uncovered, uncovered, kept]
      cases state.covers line with
      | true => exact rest
      | false => exact congrArg (⟨number, starts number, line⟩ :: ·) rest
    -- Neither the old nor the new line opens or closes a fence, and both are skipped.
    · rw [FenceState.step_eq_self old] at later
      simp only [uncovered, covered, stillCovered, if_true, FenceState.step_eq_self old,
        FenceState.step_eq_self new]
      exact ih later _ _ _

theorem ofLines_of_sameOutsideFences (same : SameOutsideFences {} first second) :
    ofLines second =
      (ofLines first).map (startingAt fun number => lineStart second number) := by
  have uncovered := uncovered_map_startingAt same (fun number => lineStart second number) 1 0 0
  have filtered := congrArg (List.filter fun line => mayHoldCode line.text) uncovered
  rw [List.filter_map, List.filter_map] at filtered
  rw [← map_startingAt_lineStart second, ofLines, ofLines, scan_eq_filter, scan_eq_filter]
  exact filtered

end OpenLine

theorem HeadingLine.ofDocument_of_sameOutsideFences {first second : List Text}
    (same : SameOutsideFences {} first second) : ofDocument second = ofDocument first := by
  have uncovered := OpenLine.uncovered_map_startingAt same (fun _ => 0) 1 0 0
  have read := congrArg
    (List.filterMap fun line => (ofLine? line.text).map (line.number, ·)) uncovered
  rw [List.filterMap_map, List.filterMap_map] at read
  rw [ofDocument, ofDocument, scan_eq_filterMap {} 1 0 second, scan_eq_filterMap {} 1 0 first]
  exact read

theorem CodeUse.ofDocument_of_sameOutsideFences (settings : Settings) {first second : Text}
    (same : SameOutsideFences {} (lines first) (lines second)) :
    ofDocument settings second = (ofDocument settings first).map fun use =>
      use.moved 0 (lengthChange (lines first) (lines second) use.line) := by
  rw [ofDocument, ofDocument, OpenLine.ofDocument, OpenLine.ofDocument,
    OpenLine.ofLines_of_sameOutsideFences same, List.filterMap_map, List.map_filterMap]
  apply List.filterMap_congr
  intro line isOpen
  obtain ⟨before, -, -, numbered, -⟩ := OpenLine.mem_scan_iff.mp isOpen
  obtain ⟨-, starts, -⟩ := OpenLine.stands_of_mem isOpen
  have change := Document.lineStart_eq_add_lengthChange same.length_eq
    (by omega : (1 : Int) ≤ line.number)
  have text : (line.startingAt fun number => lineStart (lines second) number).text = line.text :=
    rfl
  rw [Function.comp_apply, ofLine?_of_text_eq settings text]
  apply Option.map_congr
  intro use read
  obtain ⟨found, beginning⟩ := isBeginning_of_ofLine? read
  simp only [OpenLine.startingAt, beginning.number]
  congr 1 <;> omega

theorem CodeUse.line?_of_sameOutsideFences {settings : Settings} {first second : Text}
    (same : SameOutsideFences {} (lines first) (lines second)) {use : CodeUse}
    (member : use ∈ ofDocument settings first) :
    Document.line? (lines second) use.line = Document.line? (lines first) use.line := by
  obtain ⟨line, isOpen, read⟩ := List.mem_filterMap.mp member
  obtain ⟨found, beginning⟩ := isBeginning_of_ofLine? read
  have stays : (line.startingAt fun number => lineStart (lines second) number) ∈
      OpenLine.ofLines (lines second) := by
    rw [OpenLine.ofLines_of_sameOutsideFences same]
    exact List.mem_map_of_mem isOpen
  rw [beginning.number, (OpenLine.stands_of_mem isOpen).1]
  exact (OpenLine.stands_of_mem stays).1

namespace SaveCheck

theorem message_moved (use : CodeUse) (quote : Text) (offset : Int) :
    (Finding.unfenced (use.moved 0 offset) quote).message =
      (Finding.unfenced use quote).message := by
  simp only [Finding.message, CodeUse.moved, Int.add_zero]

theorem messages_of_sameOutsideFences (settings : Settings) {first second : Text}
    (same : SameOutsideFences {} (lines first) (lines second)) :
    ((CodeUse.ofDocument settings second).map (report settings (lines second))).map (·.message) =
      ((CodeUse.ofDocument settings first).map (report settings (lines first))).map
        (·.message) := by
  rw [CodeUse.ofDocument_of_sameOutsideFences settings same, List.map_map, List.map_map,
    List.map_map]
  apply List.map_congr_left
  intro use member
  have line := CodeUse.line?_of_sameOutsideFences same member
  have number : (use.moved 0 (lengthChange (lines first) (lines second) use.line)).line = use.line :=
    Int.add_zero use.line
  simp only [Function.comp_apply, report, number, line]
  exact message_moved use _ _

end SaveCheck

/-- Replacing covered text changes no heading, no hint, and no finding of the two checks. Code uses
keep their lines and texts, and move as far as the lines before them have become longer. -/
theorem findings_of_sameOutsideFences (settings : Settings) {first second : Text}
    (same : SameOutsideFences {} (lines first) (lines second)) :
    Contents.ofDocument settings.unicodeAnchors second =
        Contents.ofDocument settings.unicodeAnchors first ∧
      Hint.ofDocument settings second = Hint.ofDocument settings first ∧
      QuickCheck.findings settings second = QuickCheck.findings settings first ∧
      (SaveCheck.findings settings second).map (·.message) =
        (SaveCheck.findings settings first).map (·.message) ∧
      CodeUse.ofDocument settings second = (CodeUse.ofDocument settings first).map fun use =>
        use.moved 0 (lengthChange (lines first) (lines second) use.line) := by
  have openLines := OpenLine.ofLines_of_sameOutsideFences same
  have ends : Document.endsInside (lines second) = Document.endsInside (lines first) := by
    rw [Document.endsInside, Document.endsInside, same.countMarkers_eq]
  refine ⟨?_, ?_, ?_, ?_, CodeUse.ofDocument_of_sameOutsideFences settings same⟩
  · rw [Contents.ofDocument, Contents.ofDocument, Contents.ofLines, Contents.ofLines,
      HeadingLine.ofDocument_of_sameOutsideFences same]
  · rw [Hint.ofDocument, Hint.ofDocument, OpenLine.ofDocument, OpenLine.ofDocument, openLines,
      List.filterMap_map]
    rfl
  · simp only [QuickCheck.findings, QuickCheck.highScores, ends, openLines, List.filterMap_map]
    rfl
  · simp only [SaveCheck.findings, List.map_append, ends,
      SaveCheck.messages_of_sameOutsideFences settings same]

/-- A fenced import and a fenced heading give way to shorter text; the import below moves up by
five characters. -/
theorem findings_replaced_listing :
    let first := "# A\n```\nimport os\n# A\n```\n# A\nthen import re".toList
    let second := "# A\n```\nx=1\n## B\n```\n# A\nthen import re".toList
    SameOutsideFences {} (lines first) (lines second) ∧
      Contents.ofDocument false second = Contents.ofDocument false first ∧
      Hint.ofDocument {} second = Hint.ofDocument {} first ∧
      QuickCheck.findings {} second = QuickCheck.findings {} first ∧
      (SaveCheck.findings {} second).map (·.message) =
        (SaveCheck.findings {} first).map (·.message) ∧
      CodeUse.ofDocument {} first = [⟨⟨7, "import re".toList, 35, 44⟩, .python⟩] ∧
      CodeUse.ofDocument {} second = [⟨⟨7, "import re".toList, 30, 39⟩, .python⟩] := by
  intro first second
  have same : SameOutsideFences {} (lines first) (lines second) := by decide +kernel
  obtain ⟨contents, hints, quick, save, uses⟩ := findings_of_sameOutsideFences {} same
  have before : CodeUse.ofDocument {} first = [⟨⟨7, "import re".toList, 35, 44⟩, .python⟩] := by
    decide +kernel
  have change : lengthChange (lines first) (lines second) 7 = -5 := by decide +kernel
  refine ⟨same, contents, hints, quick, save, before, ?_⟩
  rw [uses, before, List.map_singleton, change]
  rfl

end MarkdownReview
