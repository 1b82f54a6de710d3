import MarkdownReview.Proofs.Heading.Line
import MarkdownReview.Proofs.Review.OpenLine
/-!
Lines that stand elsewhere in a document, and what becomes of the findings on them. A line that has
moved, with its number, its start or both, gives the same findings, moved as far as the line.
-/

namespace MarkdownReview

namespace OpenLine

open Document (FenceState)

def moved (lines offset : Nat) (line : OpenLine) : OpenLine :=
  { line with number := line.number + lines, start := line.start + offset }

def startingAt (starts : Nat → Nat) (line : OpenLine) : OpenLine :=
  { line with start := starts line.number }

theorem uncovered_moved (state : FenceState) (number start count offset : Nat)
    (lines : List Text) :
    uncovered state (number + count) (start + offset) lines =
      (uncovered state number start lines).map (moved count offset) := by
  induction lines generalizing state number start with
  | nil => rfl
  | cons line rest ih =>
    have next : number + count + 1 = number + 1 + count := by omega
    have past : start + offset + line.length + 1 = start + line.length + 1 + offset := by omega
    rw [uncovered, uncovered, next, past, ih]
    cases state.covers line <;> rfl

theorem scan_moved (state : FenceState) (number start count offset : Nat) (lines : List Text) :
    scan state (number + count) (start + offset) lines =
      (scan state number start lines).map (moved count offset) := by
  rw [scan_eq_filter, scan_eq_filter, uncovered_moved, List.filter_map]
  rfl

theorem map_startingAt_lineStart (lines : List Text) :
    (ofLines lines).map (startingAt fun number => Document.lineStart lines number) =
      ofLines lines := by
  have same : ∀ line ∈ ofLines lines,
      startingAt (fun number => Document.lineStart lines number) line = line := by
    intro line member
    obtain ⟨-, starts, -⟩ := stands_of_mem member
    rw [startingAt, starts]
  rw [List.map_congr_left same, List.map_id']

end OpenLine

namespace HeadingLine

theorem scan_moved (state : Document.FenceState) (number count : Nat) (lines : List Text) :
    scan state (number + count) lines =
      (scan state number lines).map fun entry => (entry.1 + count, entry.2) := by
  rw [scan_eq_filterMap state (number + count) (0 + 0), scan_eq_filterMap state number 0,
    OpenLine.uncovered_moved, List.filterMap_map, List.map_filterMap]
  apply List.filterMap_congr
  intro line uncovered
  rw [Option.map_map]
  rfl

end HeadingLine

namespace Hint

def moved (lines : Nat) (hint : Hint) : Hint := { hint with line := hint.line + lines }

theorem ofLine?_moved (settings : Settings) (lines offset : Nat) (line : OpenLine) :
    ofLine? settings (line.moved lines offset) = (ofLine? settings line).map (moved lines) := by
  by_cases suspect : Code.isSuspect line.text = true
  · simp only [ofLine?, OpenLine.moved, suspect, if_true]
    rfl
  · simp only [ofLine?, OpenLine.moved, suspect, if_false, Bool.false_eq_true]
    rfl

end Hint

namespace CodeUse

def moved (lines offset : Int) (use : CodeUse) : CodeUse :=
  { use with line := use.line + lines, start := use.start + offset, stop := use.stop + offset }

theorem ofLine?_of_text_eq (settings : Settings) {line other : OpenLine}
    (same : other.text = line.text) :
    ofLine? settings other =
      (ofLine? settings line).map
        (moved (other.number - line.number) (other.start - line.start)) := by
  rw [ofLine?, ofLine?, same, Option.map_map]
  congr 1
  funext found
  simp only [Function.comp_apply, moved]
  congr 2 <;> push_cast <;> omega

theorem ofLine?_moved (settings : Settings) (lines offset : Nat) (line : OpenLine) :
    ofLine? settings (line.moved lines offset) =
      (ofLine? settings line).map (moved lines offset) := by
  have text : (line.moved lines offset).text = line.text := rfl
  rw [ofLine?_of_text_eq settings text]
  simp only [OpenLine.moved]
  congr 2 <;> push_cast <;> omega

end CodeUse
end MarkdownReview

/-!
Findings of a document that is put together from two. When no fence of the upper part is left open,
the findings are those of the upper part and then those of the lower one, further down.
-/

namespace MarkdownReview

open Document (lines newline endsInside)

variable {upper lower : Text}

theorem OpenLine.ofDocument_append (closed : endsInside (lines upper) = false) (lower : Text) :
    ofDocument (upper ++ newline :: lower) =
      ofDocument upper ++
        (ofDocument lower).map (moved (lines upper).length (upper.length + 1)) := by
  rw [ofDocument, ofLines, Document.lines_append_newline, scan_append,
    scan_congr (Document.inside_after_of_closed closed), scan_moved, Document.extent_lines]
  rfl

theorem HeadingLine.ofDocument_append {upper : List Text} (closed : endsInside upper = false)
    (lower : List Text) :
    ofDocument (upper ++ lower) =
      ofDocument upper ++
        (ofDocument lower).map fun entry => (entry.1 + upper.length, entry.2) := by
  rw [ofDocument, scan_append, scan_congr (Document.inside_after_of_closed closed), scan_moved]
  rfl

namespace Contents

theorem headings_append (unicode : Bool) (closed : endsInside (lines upper) = false)
    (lower : Text) :
    (ofDocument unicode (upper ++ newline :: lower)).headings.map Heading.unanchored =
      ((ofDocument unicode upper).headings ++
        (ofDocument unicode lower).headings.map
          (Heading.moved (lines upper).length (ofDocument unicode upper).headings.length)).map
        Heading.unanchored := by
  have unmoved (count index : Nat) (headings : List Heading) :
      (headings.map (Heading.moved count index)).map Heading.unanchored =
        (headings.map Heading.unanchored).map (Heading.moved count index) := by
    rw [List.map_map, List.map_map]
    rfl
  simp only [ofDocument, ofLines, Document.lines_append_newline, List.map_append, unmoved,
    HeadingLine.ofDocument_append closed, unanchored_headingsFrom, length_headingsFrom,
    List.mapIdx_append, List.append_cancel_left_eq]
  apply List.ext_getElem?
  intro i
  simp only [List.getElem?_mapIdx, List.getElem?_map, Option.map_map]
  apply Option.map_congr
  intro entry isEntry
  simp only [Function.comp_apply, Heading.ofLine, Heading.moved, Nat.zero_add]

end Contents

/-- Below a part that leaves no fence open, a document has the findings that it has by itself, at
the line numbers and offsets where it now stands. Headings keep their order, levels and texts. -/
theorem findings_append (settings : Settings) {upper : Text}
    (closed : endsInside (lines upper) = false) (lower : Text) :
    let whole := upper ++ newline :: lower
    let headings document := (Contents.ofDocument settings.unicodeAnchors document).headings
    Hint.ofDocument settings whole =
        Hint.ofDocument settings upper ++
          (Hint.ofDocument settings lower).map (Hint.moved (lines upper).length) ∧
      CodeUse.ofDocument settings whole =
        CodeUse.ofDocument settings upper ++
          (CodeUse.ofDocument settings lower).map
            (CodeUse.moved (lines upper).length (upper.length + 1)) ∧
      (headings whole).map Heading.unanchored =
        (headings upper ++
          (headings lower).map (Heading.moved (lines upper).length (headings upper).length)).map
          Heading.unanchored := by
  intro whole headings
  refine ⟨?_, ?_, Contents.headings_append settings.unicodeAnchors closed lower⟩
  · rw [Hint.ofDocument, OpenLine.ofDocument_append closed, List.filterMap_append,
      List.filterMap_map, Hint.ofDocument, Hint.ofDocument, List.map_filterMap]
    congr 2
    funext line
    exact Hint.ofLine?_moved settings _ _ line
  · rw [CodeUse.ofDocument, OpenLine.ofDocument_append closed, List.filterMap_append,
      List.filterMap_map, CodeUse.ofDocument, CodeUse.ofDocument, List.map_filterMap]
    congr 2
    funext line
    exact CodeUse.ofLine?_moved settings _ _ line

/-- The upper part ends with a newline, so that an empty line stands between the two. -/
theorem findings_append_listing :
    let upper := "# A\n```\nimport a\n```\nimport b\n".toList
    let lower := "# A\nimport c".toList
    let whole := upper ++ newline :: lower
    endsInside (lines upper) = false ∧
      Hint.ofDocument {} whole = [⟨5, "import b".toList⟩, ⟨8, "import c".toList⟩] ∧
      CodeUse.ofDocument {} whole =
        [⟨⟨5, "import b".toList, 21, 29⟩, .python⟩, ⟨⟨8, "import c".toList, 35, 43⟩, .python⟩] ∧
      (Contents.ofDocument false whole).headings.map Heading.unanchored =
        [⟨[], "A".toList, "A".toList, 1, 0, 1⟩, ⟨[], "A".toList, "A".toList, 1, 1, 7⟩] := by
  intro upper lower whole
  have closed : endsInside (lines upper) = false := by decide +kernel
  obtain ⟨hints, uses, headings⟩ := findings_append {} closed lower
  refine ⟨closed, ?_, ?_, ?_⟩
  · exact hints.trans (by decide +kernel)
  · exact uses.trans (by decide +kernel)
  · exact headings.trans (by decide +kernel)

end MarkdownReview

/-!
What becomes of findings when text is appended. All that was found in a document is found again at
the head of what is found in the longer one, whatever comes after it and even if its last fence is
open; what is new stands below.
-/

namespace MarkdownReview

open Document (lines newline)

/-- A list that starts with the first one and goes on with elements that are all below. -/
def Continues {α : Type} (isBelow : α → Prop) (first whole : List α) : Prop :=
  ∃ rest, whole = first ++ rest ∧ ∀ element ∈ rest, isBelow element

theorem Continues.filterMap {α β : Type} {isBelow : α → Prop} {other : β → Prop}
    {read : α → Option β} {first whole : List α} (continues : Continues isBelow first whole)
    (kept : ∀ element found, read element = some found → isBelow element → other found) :
    Continues other (first.filterMap read) (whole.filterMap read) := by
  obtain ⟨rest, rfl, below⟩ := continues
  refine ⟨rest.filterMap read, List.filterMap_append, ?_⟩
  intro found member
  obtain ⟨element, isRest, same⟩ := List.mem_filterMap.mp member
  exact kept element found same (below element isRest)

theorem OpenLine.continues_ofDocument (upper lower : Text) :
    Continues (fun line => (lines upper).length < line.number ∧ upper.length < line.start)
      (ofDocument upper) (ofDocument (upper ++ newline :: lower)) := by
  rw [ofDocument, ofDocument, ofLines, ofLines, Document.lines_append_newline, scan_append]
  refine ⟨_, rfl, ?_⟩
  intro line member
  obtain ⟨before, -, -, numbered, starts, -⟩ := mem_scan_iff.mp member
  rw [Document.extent_lines] at starts
  omega

theorem HeadingLine.continues_ofDocument (upper lower : List Text) :
    Continues (fun entry => upper.length < entry.1) (ofDocument upper)
      (ofDocument (upper ++ lower)) := by
  rw [ofDocument, ofDocument, scan_append]
  refine ⟨_, rfl, ?_⟩
  intro entry member
  rw [scan_eq_filterMap _ _ 0, List.mem_filterMap] at member
  obtain ⟨line, isUncovered, read⟩ := member
  obtain ⟨heading, -, rfl⟩ := Option.map_eq_some_iff.mp read
  obtain ⟨before, -, -, numbered, -⟩ := OpenLine.mem_uncovered_iff.mp isUncovered
  rw [numbered]
  omega

theorem Contents.continues_headings (unicode : Bool) (upper lower : Text) :
    Continues (fun heading => (lines upper).length < heading.line)
      (ofDocument unicode upper).headings
      (ofDocument unicode (upper ++ newline :: lower)).headings := by
  obtain ⟨rest, whole, below⟩ := HeadingLine.continues_ofDocument (lines upper) (lines lower)
  obtain ⟨left, later⟩ :=
    exists_headingsFrom_append unicode {} 0 (HeadingLine.ofDocument (lines upper)) rest
  simp only [ofDocument, ofLines, Document.lines_append_newline, whole]
  refine ⟨_, later, ?_⟩
  intro heading member
  have number := List.mem_map_of_mem (f := fun heading : Heading => heading.line) member
  rw [lines_headingsFrom] at number
  obtain ⟨entry, isRest, same⟩ := List.mem_map.mp number
  rw [← same]
  exact below entry isRest

/-- Appending leaves every heading, hint and code use as it was, with its index, its anchor and its
place. What is added to them is about the lines that were appended. -/
theorem findings_continue (settings : Settings) (upper lower : Text) :
    let whole := upper ++ newline :: lower
    let count := (lines upper).length
    Continues (fun heading => count < heading.line)
        (Contents.ofDocument settings.unicodeAnchors upper).headings
        (Contents.ofDocument settings.unicodeAnchors whole).headings ∧
      Continues (fun hint => count < hint.line)
        (Hint.ofDocument settings upper) (Hint.ofDocument settings whole) ∧
      Continues (fun use => (count : Int) < use.line ∧ (upper.length : Int) < use.start)
        (CodeUse.ofDocument settings upper) (CodeUse.ofDocument settings whole) := by
  intro whole count
  have openLines := OpenLine.continues_ofDocument upper lower
  refine ⟨Contents.continues_headings settings.unicodeAnchors upper lower, ?_, ?_⟩
  · apply openLines.filterMap
    intro line hint read below
    obtain ⟨-, same⟩ := Option.ite_none_right_eq_some.mp read
    cases same
    exact below.1
  · apply openLines.filterMap
    intro line use read below
    obtain ⟨found, -, rfl⟩ := Option.map_eq_some_iff.mp read
    change (count : Int) < (line.number : Int) ∧
      (upper.length : Int) < (line.start + found.place.start : Nat)
    omega

end MarkdownReview
