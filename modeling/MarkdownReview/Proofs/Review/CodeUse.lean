import Mathlib.Data.List.Basic
import MarkdownReview.Proofs.Code.Form
import MarkdownReview.Proofs.Review.OpenLine
/-!
Where lines start. The sum over the lines before a line is the offset at which that line stands
between two newlines, or between a newline and an end of the document, and the scan for open lines
keeps the same count over the lines that it passes by.
-/

namespace MarkdownReview

namespace Document

/-- A line stands in a document from an offset on. A newline comes right before it unless it is at
the start, and a newline or the end comes right after it. -/
structure IsLineAt (document : Text) (start : Nat) (line : Text) : Prop where
  unbroken : newline ∉ line
  stands : Text.slice document start (start + line.length : Nat) = line
  begins : ∀ i, i + 1 = start → document[i]? = some newline
  ends : start + line.length = document.length ∨ document[start + line.length]? = some newline

theorem getLast?_terminated {before : List Text} (nonempty : before ≠ []) :
    (terminated before).getLast? = some newline := by
  obtain ⟨earlier, last, rfl⟩ := (List.eq_nil_or_concat before).resolve_left nonempty
  simp [terminated]

theorem extent_eq_zero_iff {before : List Text} : extent before = 0 ↔ before = [] := by
  cases before with
  | nil => simp [extent]
  | cons line rest => simp [extent]

theorem isLineAt_join {line : Text} (before after : List Text) (unbroken : newline ∉ line) :
    IsLineAt (join (before ++ line :: after)) (extent before) line := by
  rw [join_append_cons, ← length_terminated]
  refine ⟨unbroken, ?_, ?_, ?_⟩
  · have inside := slice_inside (terminated before) line (preceded after) (Nat.zero_le line.length)
      (Nat.le_refl line.length)
    rwa [Nat.add_zero, List.take_length, List.drop_zero] at inside
  · intro i last
    have nonempty : before ≠ [] := by
      rintro rfl
      cases last
    have ending := getLast?_terminated nonempty
    rw [List.getLast?_eq_getElem?, ← last, Nat.add_sub_cancel] at ending
    rw [List.getElem?_append_left (by omega), ending]
  · cases after with
    | nil => simp [preceded]
    | cons next rest =>
      refine Or.inr ?_
      rw [← List.length_append, ← List.append_assoc, List.getElem?_append_right (Nat.le_refl _)]
      simp [preceded]

theorem exists_isLineAt {document : Text} {number : Nat} (positive : 1 ≤ number)
    (within : number ≤ (lines document).length) :
    ∃ line, (lines document)[number - 1]? = some line ∧
      IsLineAt document (lineStart (lines document) number) line ∧
      (lineStart (lines document) number = 0 ↔ number = 1) := by
  have inside : number - 1 < (lines document).length := by omega
  have here : (lines document)[number - 1]? = some (lines document)[number - 1] :=
    List.getElem?_eq_getElem inside
  have unbroken := newline_not_mem (List.getElem_mem inside)
  have start : lineStart (lines document) number = extent ((lines document).take (number - 1)) := by
    rw [lineStart_eq_extent_take (by omega)]
    congr 2
    omega
  refine ⟨_, here, ?_, ?_⟩
  · have stands := isLineAt_join ((lines document).take (number - 1))
      ((lines document).drop (number - 1 + 1)) unbroken
    rwa [List.getElem_cons_drop, List.take_append_drop, join_lines, ← start] at stands
  · rw [start, extent_eq_zero_iff, List.take_eq_nil_iff]
    have nonempty := lines_ne_nil document
    constructor
    · rintro (first | none)
      · omega
      · exact absurd none nonempty
    · intro first
      exact Or.inl (by omega)

end Document

namespace OpenLine

open Document (IsLineAt lines lineStart)

/-- The lines of a document, joined by newlines, are the document. Each line stands in it at the
start that is summed up from the lines before it, which is the start of the document for the first
line and comes right after a newline for the others; and an open line is the line at its number,
with the start that the scan has counted up to. -/
theorem lines_stand_at_lineStart (document : Text) :
    Document.join (lines document) = document ∧
    (∀ number : Nat, 1 ≤ number → number ≤ (lines document).length →
      ∃ line, (lines document)[number - 1]? = some line ∧
        IsLineAt document (lineStart (lines document) number) line ∧
        (lineStart (lines document) number = 0 ↔ number = 1)) ∧
    ∀ found ∈ ofDocument document, 1 ≤ found.number ∧
      (lines document)[found.number - 1]? = some found.text ∧
      found.start = lineStart (lines document) found.number := by
  refine ⟨Document.join_lines document, ?_, ?_⟩
  · intro number positive within
    exact Document.exists_isLineAt positive within
  · intro found member
    obtain ⟨stands, starts, -⟩ := stands_of_mem member
    obtain ⟨before, after, split, number⟩ := Document.line?_eq_some_iff.mp stands
    have index : found.number - 1 = before.length := by omega
    refine ⟨by omega, ?_, starts.symm⟩
    rw [index, split]
    simp

/-- The fence, what it covers and the empty line are passed by, and all the same the import starts
where it stands. -/
theorem lines_stand_at_lineStart_import :
    let document := "```\nx = 1\n```\n\nimport a\n".toList
    1 ≤ 5 ∧ 5 ≤ (lines document).length ∧ lineStart (lines document) 5 = 15 ∧
      IsLineAt document 15 "import a".toList ∧
      ⟨5, 15, "import a".toList⟩ ∈ ofDocument document := by
  intro document
  obtain ⟨-, starts, scanned⟩ := lines_stand_at_lineStart document
  have within : 5 ≤ (lines document).length := by decide +kernel
  have start : lineStart (lines document) 5 = 15 := by decide +kernel
  have member : ⟨5, 15, "import a".toList⟩ ∈ ofDocument document := by decide +kernel
  obtain ⟨line, here, stands, -⟩ := starts 5 (by decide) within
  have text := (scanned _ member).2.1
  rw [here, Option.some_inj] at text
  change IsLineAt document (lineStart (lines document) 5) line at stands
  rw [start, text] at stands
  exact ⟨by decide, within, start, stands, member⟩

end OpenLine
end MarkdownReview

/-!
Where code uses stand. Their offsets cut exactly their text out of the document, inside one line
that no fence covers and outside the inline code of that line, and they come in document order.
-/

namespace MarkdownReview

namespace Text

theorem eq_of_prefix_cut {text line : Text} {start stop : Nat}
    (isStart : text <+: (line.take stop).drop start) :
    text = (line.take (start + text.length)).drop start := by
  have bound := isStart.length_le
  have cut := List.prefix_iff_eq_take.mp isStart
  rw [List.length_drop, List.length_take] at bound
  rw [List.drop_take, List.take_take] at cut
  rw [List.drop_take, Nat.add_sub_cancel_left]
  have inside : min text.length (stop - start) = text.length := by omega
  rw [inside] at cut
  exact cut

theorem length_within_pos {limit : Option Int} (positive : ∀ stop ∈ limit, 1 ≤ stop) {text : Text}
    (nonempty : 0 < text.length) : 0 < (within limit text).length := by
  cases limit with
  | none => exact nonempty
  | some stop =>
    have atLeast := positive stop rfl
    rw [within, upTo, List.length_take]
    unfold position
    split <;> omega

end Text

namespace CodeUse

open Document (line? lineStart lines)

/-- A use on an open line is the beginning of the match on that line. -/
structure IsBeginning (settings : Settings) (line : OpenLine) (found : Code.Match) (use : CodeUse) :
    Prop where
  first : Code.firstMatch? line.text = some found
  number : use.line = line.number
  start : use.start = (line.start + found.place.start : Nat)
  stop : use.stop = (line.start + found.place.start + use.text.length : Nat)
  text : use.text = Text.within settings.useLength
    ((line.text.take found.place.stop).drop found.place.start)
  language : use.language = found.language

theorem isBeginning_of_ofLine? {settings : Settings} {line : OpenLine} {use : CodeUse}
    (read : ofLine? settings line = some use) :
    ∃ found, IsBeginning settings line found use := by
  obtain ⟨found, first, rfl⟩ := Option.map_eq_some_iff.mp read
  obtain ⟨form, known, placed, -, -⟩ := Code.firstMatch?_place first
  have bounds := Code.Form.bounds_of_mem_places known placed
  refine ⟨found, first, rfl, rfl, rfl, ?_, rfl⟩
  have cut := Text.slice_natCast line.text (Nat.le_of_lt bounds.1) bounds.2
  exact congrArg (Text.within settings.useLength) cut

namespace IsBeginning

variable {settings : Settings} {line : OpenLine} {found : Code.Match} {use : CodeUse}

theorem text_prefix (beginning : IsBeginning settings line found use) :
    use.text <+: (line.text.take found.place.stop).drop found.place.start := by
  rw [beginning.text]
  exact Text.within_isPrefix _ _

theorem place_bounds (beginning : IsBeginning settings line found use) :
    found.place.start < found.place.stop ∧ found.place.stop ≤ line.text.length ∧
      found.place.start + use.text.length ≤ found.place.stop := by
  obtain ⟨form, known, placed, -, -⟩ := Code.firstMatch?_place beginning.first
  have bounds := Code.Form.bounds_of_mem_places known placed
  have kept := beginning.text_prefix.length_le
  rw [List.length_drop, List.length_take] at kept
  omega

theorem text_eq_cut (beginning : IsBeginning settings line found use) :
    use.text = (line.text.take (found.place.start + use.text.length)).drop found.place.start :=
  Text.eq_of_prefix_cut beginning.text_prefix

theorem text_pos (beginning : IsBeginning settings line found use)
    (positive : ∀ limit ∈ settings.useLength, 1 ≤ limit) : 0 < use.text.length := by
  have bounds := beginning.place_bounds
  rw [beginning.text]
  apply Text.length_within_pos positive
  rw [List.length_drop, List.length_take]
  omega

end IsBeginning

theorem exists_isBeginning {settings : Settings} {document : Text} {use : CodeUse}
    (member : use ∈ ofDocument settings document) :
    ∃ line ∈ OpenLine.ofDocument document, ∃ found, IsBeginning settings line found use := by
  obtain ⟨line, isOpen, read⟩ := List.mem_filterMap.mp member
  exact ⟨line, isOpen, isBeginning_of_ofLine? read⟩

/-- A use stands on a line of the document, at the offsets that it says. -/
structure StandsOn (document line : Text) (use : CodeUse) : Prop where
  isLine : line? (lines document) use.line = some line
  lineStands : Text.slice document (lineStart (lines document) use.line)
    (lineStart (lines document) use.line + line.length : Nat) = line
  stands : Text.slice document use.start use.stop = use.text
  starts : lineStart (lines document) use.line ≤ use.start
  ordered : use.start ≤ use.stop
  stops : use.stop ≤ (lineStart (lines document) use.line + line.length : Nat)
  noNewline : Document.newline ∉ use.text
  uncovered : (Document.covered (lines document))[use.line.toNat - 1]? = some false
  outside : ∀ span ∈ Document.codeSpans line,
    use.stop ≤ (lineStart (lines document) use.line + span.start : Nat) ∨
      (lineStart (lines document) use.line + span.stop : Nat) ≤ use.start

theorem IsBeginning.standsOn {settings : Settings} {document : Text} {line : OpenLine}
    {found : Code.Match} {use : CodeUse} (isOpen : line ∈ OpenLine.ofDocument document)
    (beginning : IsBeginning settings line found use) : StandsOn document line.text use := by
  obtain ⟨isLine, lineStarts, uncovered⟩ := OpenLine.stands_of_mem isOpen
  obtain ⟨form, known, placed, -, apart⟩ := Code.firstMatch?_place beginning.first
  have bounds := beginning.place_bounds
  have start := beginning.start
  have stop := beginning.stop
  rw [← beginning.number] at isLine lineStarts
  have cut := Document.slice_line isLine (Nat.le_add_right found.place.start use.text.length)
    (by omega : found.place.start + use.text.length ≤ line.text.length)
  have whole := Document.slice_line isLine (Nat.zero_le line.text.length) (Nat.le_refl _)
  rw [List.take_length, List.drop_zero] at whole
  constructor
  case isLine => exact isLine
  case lineStands => exact whole
  case stands =>
    rw [lineStarts, ← beginning.text_eq_cut, ← Nat.add_assoc] at cut
    rw [start, stop]
    exact cut
  case starts => omega
  case ordered => omega
  case stops => omega
  case noNewline =>
    obtain ⟨before, after, split, -⟩ := Document.line?_eq_some_iff.mp isLine
    have clean : Document.newline ∉ line.text :=
      Document.newline_not_mem (split ▸ List.mem_append_right before (List.mem_cons_self ..))
    intro inside
    rw [beginning.text_eq_cut] at inside
    exact clean (List.mem_of_mem_take (List.mem_of_mem_drop inside))
  case uncovered =>
    rw [beginning.number, Int.toNat_natCast]
    exact uncovered
  case outside =>
    intro span inside
    have free := Document.meets_eq_false_iff.mp (apart span inside)
    omega

/-- Every use stands where it says, and is not empty when what is kept of a match has a positive
limit. Later uses have greater line numbers and start past the end of earlier ones. -/
theorem standsOn_of_mem_ofDocument (settings : Settings) (document : Text) :
    (∀ use ∈ ofDocument settings document, (∃ line, StandsOn document line use) ∧
      ((∀ limit ∈ settings.useLength, 1 ≤ limit) → use.start < use.stop)) ∧
    (ofDocument settings document).Pairwise fun first second =>
      first.line < second.line ∧ first.stop ≤ second.start := by
  refine ⟨?_, ?_⟩
  · intro use member
    obtain ⟨line, isOpen, found, beginning⟩ := exists_isBeginning member
    refine ⟨⟨line.text, beginning.standsOn isOpen⟩, ?_⟩
    intro positive
    have length := beginning.text_pos positive
    have start := beginning.start
    have stop := beginning.stop
    omega
  · apply List.pairwise_filterMap.mpr
    apply (OpenLine.scan_pairwise {} 1 0 (lines document)).imp
    intro first second earlier use readFirst other readSecond
    obtain ⟨found, beginning⟩ := isBeginning_of_ofLine? readFirst
    obtain ⟨foundLater, later⟩ := isBeginning_of_ofLine? readSecond
    have bounds := beginning.place_bounds
    have number := beginning.number
    have numberLater := later.number
    have stop := beginning.stop
    have startLater := later.start
    omega

/-- The second import on the last line is found, cut to ten characters; the fenced one and the one
in inline code are not. -/
theorem standsOn_last_line :
    let document := "```\nimport a\n```\nuse `import os`, then from os import path".toList
    let use : CodeUse := ⟨⟨4, "from os im".toList, 39, 49⟩, .python⟩
    use ∈ ofDocument { useLength := some 10 } document ∧
      (∃ line, StandsOn document line use) ∧ use.start < use.stop := by
  intro document use
  have member : use ∈ ofDocument { useLength := some 10 } document := by decide +kernel
  have stands := (standsOn_of_mem_ofDocument { useLength := some 10 } document).1 use member
  refine ⟨member, stands.1, stands.2 ?_⟩
  intro limit kept
  cases kept
  decide

end CodeUse
end MarkdownReview
