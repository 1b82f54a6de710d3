import Mathlib.Data.List.Forall2
import MarkdownReview.Proofs.Review.CodeUse
import MarkdownReview.Proofs.Text.Occurrence
import MarkdownReview.Surface
/-!
Which passages get a highlight, and where. A passage may be out of date in any way; it is placed
where it was found if it still stands there, and else at its first place on the line. A passage
found in a document keeps its place in every document that agrees up to its line.
-/

namespace MarkdownReview.Surface

open Document (line? lineStart lines)
open Text (OccursAt)

/-- The place at which a passage is marked on a line: the recorded one if it still stands there,
and else the first on the line. -/
def IsPlace (line : Text) (start : Nat) (passage : Passage) (offset : Nat) : Prop :=
  OccursAt line passage.text offset ∧
    (passage.start = (start + offset : Nat) ∨
      (∀ recorded : Nat, passage.start = (start + recorded : Nat) →
        ¬OccursAt line passage.text recorded) ∧
      ∀ earlier < offset, ¬OccursAt line passage.text earlier)

theorem standsAt_iff {line text : Text} {offset : Nat} (nonempty : text ≠ []) :
    standsAt line text offset = true ↔ OccursAt line text offset := by
  rw [standsAt, beq_iff_eq]
  refine ⟨?_, ?_⟩
  · intro cut
    apply Text.occursAt_of_cut_eq _ cut
    by_contra past
    rw [List.drop_eq_nil_of_le (by omega), List.take_nil] at cut
    exact nonempty cut.symm
  · intro occurs
    have cut := occurs.cut_eq
    rwa [List.drop_take, Nat.add_sub_cancel_left] at cut

theorem recorded_iff {line : Text} {start : Nat} {passage : Passage} (nonempty : passage.text ≠ []) :
    (0 ≤ passage.start - (start : Int) ∧
        standsAt line passage.text (passage.start - start).toNat = true) ↔
      ∃ recorded : Nat, passage.start = (start + recorded : Nat) ∧
        OccursAt line passage.text recorded := by
  rw [standsAt_iff nonempty]
  refine ⟨?_, ?_⟩
  · intro kept
    obtain ⟨ahead, occurs⟩ := kept
    exact ⟨(passage.start - start).toNat, by omega, occurs⟩
  · intro stands
    obtain ⟨recorded, same, occurs⟩ := stands
    have offset : (passage.start - (start : Int)).toNat = recorded := by omega
    rw [offset]
    exact ⟨by omega, occurs⟩

theorem placeOn?_eq_some_iff {line : Text} {start offset : Nat} {passage : Passage}
    (nonempty : passage.text ≠ []) :
    placeOn? line start passage = some offset ↔ IsPlace line start passage offset := by
  rw [placeOn?]
  by_cases kept : 0 ≤ passage.start - (start : Int) ∧
      standsAt line passage.text (passage.start - start).toNat = true
  · obtain ⟨recorded, same, occurs⟩ := (recorded_iff nonempty).mp kept
    have held : (passage.start - (start : Int)).toNat = recorded := by omega
    rw [if_pos kept, held, Option.some.injEq]
    refine ⟨?_, ?_⟩
    · intro here
      rw [← here]
      exact ⟨occurs, Or.inl same⟩
    · intro place
      rcases place with ⟨-, here | ⟨gone, -⟩⟩
      · omega
      · exact absurd occurs (gone recorded same)
  · have gone : ∀ recorded : Nat, passage.start = (start + recorded : Nat) →
        ¬OccursAt line passage.text recorded :=
      fun recorded same occurs => kept ((recorded_iff nonempty).mpr ⟨recorded, same, occurs⟩)
    rw [if_neg kept, Text.find?_eq_some_iff]
    refine ⟨?_, ?_⟩
    · intro found
      obtain ⟨occurs, first⟩ := found
      exact ⟨occurs, Or.inr ⟨gone, first⟩⟩
    · intro place
      rcases place with ⟨occurs, here | ⟨-, first⟩⟩
      · exact absurd occurs (gone offset here)
      · exact ⟨occurs, first⟩

theorem existsUnique_isPlace {line : Text} {passage : Passage} (start : Nat)
    (nonempty : passage.text ≠ []) (occurs : passage.text <:+: line) :
    ∃! offset, IsPlace line start passage offset := by
  cases placed : placeOn? line start passage with
  | some offset =>
    refine ⟨offset, (placeOn?_eq_some_iff nonempty).mp placed, ?_⟩
    intro other place
    rw [← placeOn?_eq_some_iff nonempty, placed] at place
    exact (Option.some.inj place).symm
  | none =>
    simp only [placeOn?] at placed
    split at placed
    · cases placed
    · exact absurd occurs (Text.find?_eq_none_iff.mp placed)

theorem attempt_of_isPlace {metrics : Metrics} {lines : List Text} {passage : Passage} {line : Text}
    {offset : Nat} (ratio : Float) (isLine : line? lines passage.line = some line)
    (nonempty : passage.text ≠ [])
    (place : IsPlace line (lineStart lines passage.line) passage offset) :
    attempt ratio metrics lines passage =
      match metrics.measure (line.take offset) with
      | .error reason => .error (.notMeasured reason)
      | .ok before =>
        rectangle ratio metrics passage (lineStart lines passage.line) offset before := by
  have notEmpty : passage.text.isEmpty = false := List.isEmpty_eq_false_iff.mpr nonempty
  have placed := (placeOn?_eq_some_iff nonempty).mpr place
  unfold attempt
  cases measured : metrics.measure (line.take offset) <;>
    simp only [isLine, notEmpty, placed, measured, Bool.false_eq_true, if_false]

theorem highlight_congr_measure {metrics : Metrics} {lines : List Text} {passage : Passage}
    {line : Text} {offset : Nat} {measure : Measurer} (ratio : Float)
    (isLine : line? lines passage.line = some line) (nonempty : passage.text ≠ [])
    (place : IsPlace line (lineStart lines passage.line) passage offset)
    (agree : measure (line.take offset) = metrics.measure (line.take offset)) :
    highlight ratio { metrics with measure } lines passage =
      highlight ratio metrics lines passage := by
  unfold highlight
  rw [attempt_of_isPlace ratio isLine nonempty place, attempt_of_isPlace ratio isLine nonempty place]
  simp only [agree]
  cases metrics.measure (line.take offset) <;> rfl

/-- A mark stands for a passage at an offset of its line, after text of the width `before`. -/
structure MarksAt (metrics : Metrics) (lines : List Text) (passage : Passage) (offset : Nat)
    (before : Float) (mark : Highlight) : Prop where
  start : mark.start = (lineStart lines passage.line + offset : Nat)
  stop : mark.stop = (lineStart lines passage.line + offset + passage.text.length : Nat)
  text : mark.text = passage.text
  left : mark.left = metrics.paddingLeft + before

inductive Outcome (metrics : Metrics) (lines : List Text) (passage : Passage) (line : Text)
    (offset : Nat) : Except Fault Highlight → Prop
  | notMeasured {reason : Text} (failed : metrics.measure (line.take offset) = .error reason) :
    Outcome metrics lines passage line offset (.error ⟨passage.line, .notMeasured reason⟩)
  | outsideBox {before : Float} (measured : metrics.measure (line.take offset) = .ok before)
    (full : metrics.rightEdge - (metrics.paddingLeft + before) ≤ 0) :
    Outcome metrics lines passage line offset (.error ⟨passage.line, .outsideBox⟩)
  | marked {before : Float} {mark : Highlight}
    (measured : metrics.measure (line.take offset) = .ok before)
    (room : ¬metrics.rightEdge - (metrics.paddingLeft + before) ≤ 0)
    (marks : MarksAt metrics lines passage offset before mark) :
    Outcome metrics lines passage line offset (.ok mark)

theorem outcome_of_isPlace (ratio : Float) (metrics : Metrics) {lines : List Text}
    {passage : Passage} {line : Text} {offset : Nat}
    (isLine : line? lines passage.line = some line) (nonempty : passage.text ≠ [])
    (place : IsPlace line (lineStart lines passage.line) passage offset) :
    Outcome metrics lines passage line offset (highlight ratio metrics lines passage) := by
  unfold highlight
  rw [attempt_of_isPlace ratio isLine nonempty place]
  cases measured : metrics.measure (line.take offset) with
  | error reason => exact .notMeasured measured
  | ok before =>
    by_cases full : metrics.rightEdge - (metrics.paddingLeft + before) ≤ 0
    · simp only [rectangle, if_pos full]
      exact .outsideBox measured full
    · simp only [rectangle, if_neg full]
      exact .marked measured full ⟨rfl, rfl, rfl, rfl⟩

/-- What it takes for a passage to be marked at an offset of a line, after text of the width
`before`. -/
structure Fits (metrics : Metrics) (lines : List Text) (passage : Passage) (line : Text)
    (offset : Nat) (before : Float) : Prop where
  isLine : line? lines passage.line = some line
  nonempty : passage.text ≠ []
  place : IsPlace line (lineStart lines passage.line) passage offset
  measured : metrics.measure (line.take offset) = .ok before
  room : ¬metrics.rightEdge - (metrics.paddingLeft + before) ≤ 0

theorem Fits.exists_mark {metrics : Metrics} {lines : List Text} {passage : Passage} {line : Text}
    {offset : Nat} {before : Float} (fits : Fits metrics lines passage line offset before)
    (ratio : Float) :
    ∃ mark, highlight ratio metrics lines passage = .ok mark ∧
      MarksAt metrics lines passage offset before mark := by
  have outcome := outcome_of_isPlace ratio metrics fits.isLine fits.nonempty fits.place
  generalize highlight ratio metrics lines passage = result at outcome
  have measured := fits.measured
  cases outcome with
  | notMeasured failed =>
    rw [failed] at measured
    cases measured
  | outsideBox width full =>
    rw [width] at measured
    cases measured
    exact absurd full fits.room
  | marked width room marks =>
    rw [width] at measured
    cases measured
    exact ⟨_, rfl, marks⟩

theorem fits_of_highlight_eq_ok {ratio : Float} {metrics : Metrics} {lines : List Text}
    {passage : Passage} {mark : Highlight}
    (drawn : highlight ratio metrics lines passage = .ok mark) :
    ∃ line offset before, Fits metrics lines passage line offset before := by
  cases isLine : line? lines passage.line with
  | none => simp [highlight, attempt, isLine] at drawn
  | some line =>
    by_cases nonempty : passage.text = []
    · simp [highlight, attempt, isLine, nonempty] at drawn
    · cases placed : placeOn? line (lineStart lines passage.line) passage with
      | none => simp [highlight, attempt, isLine, nonempty, placed] at drawn
      | some offset =>
        have place := (placeOn?_eq_some_iff nonempty).mp placed
        have outcome := outcome_of_isPlace ratio metrics isLine nonempty place
        rw [drawn] at outcome
        cases outcome with
        | marked measured room marks =>
          exact ⟨line, offset, _, isLine, nonempty, place, measured, room⟩

theorem MarksAt.inside {metrics : Metrics} {document : Text} {passage : Passage} {line : Text}
    {offset : Nat} {before : Float} {mark : Highlight}
    (fits : Fits metrics (lines document) passage line offset before)
    (marks : MarksAt metrics (lines document) passage offset before mark) :
    Text.slice document mark.start mark.stop = mark.text ∧
      lineStart (lines document) passage.line ≤ mark.start ∧
      mark.stop ≤ (lineStart (lines document) passage.line + line.length : Nat) := by
  obtain ⟨occurs, -⟩ := fits.place
  have bound := occurs.length_le
  have cut := Document.slice_line fits.isLine (Nat.le_add_right offset passage.text.length) bound
  rw [occurs.cut_eq, ← Nat.add_assoc] at cut
  have start := marks.start
  have stop := marks.stop
  refine ⟨?_, by omega, by omega⟩
  rw [start, stop, marks.text]
  exact cut

theorem forall₂_filter_filterMap {α β : Type} {kept : α → Prop} [DecidablePred kept]
    {result : α → Option β} {related : α → β → Prop}
    (given : ∀ a, kept a → ∃ b, result a = some b ∧ related a b)
    (absent : ∀ a, ¬kept a → result a = none) (items : List α) :
    List.Forall₂ related (items.filter fun a => decide (kept a)) (items.filterMap result) := by
  induction items with
  | nil => exact List.Forall₂.nil
  | cons a rest ih =>
    by_cases keep : kept a
    · obtain ⟨b, is, relates⟩ := given a keep
      rw [List.filter_cons_of_pos (by simpa using keep), List.filterMap_cons_some is]
      exact List.Forall₂.cons relates ih
    · rw [List.filter_cons_of_neg (by simpa using keep), List.filterMap_cons_none (absent a keep)]
      exact ih

open scoped Classical in
/-- The highlights are those of the passages that fit, in their order, one for each; the others
leave no trace. Each cuts its passage out of the document at the place of the passage on its line,
and a text that occurs on a line has exactly one place there. -/
theorem highlights_fit (ratio : Float) (metrics : Metrics) (document : Text)
    (passages : List Passage) :
    List.Forall₂
      (fun passage mark => ∃ line offset before,
        Fits metrics (lines document) passage line offset before ∧
        MarksAt metrics (lines document) passage offset before mark ∧
        Text.slice document mark.start mark.stop = mark.text ∧
        lineStart (lines document) passage.line ≤ mark.start ∧
        mark.stop ≤ (lineStart (lines document) passage.line + line.length : Nat))
      (passages.filter fun passage =>
        decide (∃ line offset before, Fits metrics (lines document) passage line offset before))
      (highlights ratio metrics document passages) ∧
    ∀ (passage : Passage) (line : Text) (start : Nat), passage.text ≠ [] →
      passage.text <:+: line → ∃! offset, IsPlace line start passage offset := by
  refine ⟨?_, ?_⟩
  · apply forall₂_filter_filterMap
    · intro passage placed
      obtain ⟨line, offset, before, fits⟩ := placed
      obtain ⟨mark, drawn, marks⟩ := fits.exists_mark ratio
      refine ⟨mark, ?_, line, offset, before, fits, marks, marks.inside fits⟩
      rw [drawn]
      rfl
    · intro passage misfit
      cases drawn : highlight ratio metrics (lines document) passage with
      | error fault => rfl
      | ok mark => exact absurd (fits_of_highlight_eq_ok drawn) misfit
  · intro passage line start nonempty occurs
    exact existsUnique_isPlace start nonempty occurs

theorem marks_of_mem_highlights {ratio : Float} {metrics : Metrics} {document : Text}
    {passages : List Passage} {mark : Highlight}
    (member : mark ∈ highlights ratio metrics document passages) :
    Text.slice document mark.start mark.stop = mark.text ∧
      ∃ passage ∈ passages, passage.text = mark.text := by
  obtain ⟨passage, known, drawn⟩ := List.mem_filterMap.mp member
  cases result : highlight ratio metrics (lines document) passage with
  | error fault =>
    rw [result] at drawn
    cases drawn
  | ok own =>
    rw [result] at drawn
    cases drawn
    obtain ⟨line, offset, before, fits⟩ := fits_of_highlight_eq_ok result
    obtain ⟨same, isSame, marks⟩ := fits.exists_mark ratio
    rw [result] at isSame
    cases isSame
    exact ⟨(marks.inside fits).1, passage, known, marks.text.symm⟩

def Highlight.unplaced (highlight : Highlight) : Highlight := { highlight with top := 0, left := 0 }

/-- Scrolling keeps those highlights that it moves into the viewport, and all of them where the
height of the viewport is not known. -/
theorem scroll_eq_map_filter (top left : Float) (viewport : Option Float)
    (highlights : List Highlight) :
    scroll top left viewport highlights =
      (highlights.filter fun highlight =>
        viewport.all fun height => (highlight.scrolled top left).isVisible height).map
        (·.scrolled top left) := by
  cases viewport with
  | none =>
    rw [scroll, List.filter_eq_self.mpr]
    exact fun _ _ => rfl
  | some height =>
    rw [scroll, List.filter_map]
    rfl

theorem unplaced_scroll_sublist (top left : Float) (viewport : Option Float)
    (highlights : List Highlight) :
    ((scroll top left viewport highlights).map Highlight.unplaced).Sublist
      (highlights.map Highlight.unplaced) := by
  have moved : Highlight.unplaced ∘ (·.scrolled top left) = Highlight.unplaced := rfl
  rw [scroll_eq_map_filter, List.map_map, moved]
  exact List.filter_sublist.map _

/-- A use that is not empty has its place where its match starts, in every document that agrees with
the one in which it was found up to its line. -/
theorem isPlace_of_use {settings : Settings} {old new : Text} {use : CodeUse}
    (positive : ∀ limit ∈ settings.useLength, 1 ≤ limit)
    (member : use ∈ CodeUse.ofDocument settings old)
    (same : (lines new).take use.line.toNat = (lines old).take use.line.toNat) :
    ∃ line found, line? (lines new) use.line = some line ∧
      Code.firstMatch? line = some found ∧ use.text ≠ [] ∧
      use.start = (lineStart (lines new) use.line + found.place.start : Nat) ∧
      use.stop = use.start + use.text.length ∧
      IsPlace line (lineStart (lines new) use.line) use.toPassage found.place.start := by
  obtain ⟨line, isOpen, found, beginning⟩ := CodeUse.exists_isBeginning member
  obtain ⟨isLine, lineStarts, -⟩ := OpenLine.stands_of_mem isOpen
  rw [← beginning.number] at isLine lineStarts
  obtain ⟨isNewLine, sameStart⟩ := Document.line?_of_take_eq same isLine
  have start : use.start = (lineStart (lines new) use.line + found.place.start : Nat) := by
    rw [sameStart, lineStarts]
    exact beginning.start
  have stop : use.stop = use.start + use.text.length := by
    rw [beginning.start, beginning.stop]
    exact Int.natCast_add _ _
  have nonempty := List.ne_nil_of_length_pos (beginning.text_pos positive)
  have bounds := beginning.place_bounds
  have cut := beginning.text_eq_cut
  rw [List.drop_take, Nat.add_sub_cancel_left] at cut
  have occurs : OccursAt line.text use.text found.place.start :=
    Text.occursAt_of_cut_eq (by omega) cut.symm
  exact ⟨line.text, found, isNewLine, beginning.first, nonempty, start, stop, occurs, Or.inl start⟩

/-- A use that is not empty is never out of place in a document that agrees up to its line with the
one in which it was found. Only its measurement or the width of the surface can keep it from being
marked; the one text that is measured is what stands on the line before the match, and the mark has
the offsets and the text of the use. -/
theorem highlight_use_of_agreeing (settings : Settings) (ratio : Float) (metrics : Metrics)
    (old new : Text) (use : CodeUse) (positive : ∀ limit ∈ settings.useLength, 1 ≤ limit)
    (member : use ∈ CodeUse.ofDocument settings old)
    (same : (lines new).take use.line.toNat = (lines old).take use.line.toNat) :
    ∃ line found, line? (lines new) use.line = some line ∧ Code.firstMatch? line = some found ∧
      use.start = (lineStart (lines new) use.line + found.place.start : Nat) ∧
      (∀ fault, highlight ratio metrics (lines new) use.toPassage = .error fault →
        fault.cause = .outsideBox ∨ ∃ reason, fault.cause = .notMeasured reason ∧
          metrics.measure (line.take found.place.start) = .error reason) ∧
      (∀ mark, highlight ratio metrics (lines new) use.toPassage = .ok mark →
        mark.start = use.start ∧ mark.stop = use.stop ∧ mark.text = use.text ∧
          ∃ before, metrics.measure (line.take found.place.start) = .ok before ∧
            mark.left = metrics.paddingLeft + before) ∧
      ∀ measure : Measurer,
        measure (line.take found.place.start) = metrics.measure (line.take found.place.start) →
        highlight ratio { metrics with measure } (lines new) use.toPassage =
          highlight ratio metrics (lines new) use.toPassage := by
  obtain ⟨line, found, isLine, first, nonempty, start, stop, place⟩ :=
    isPlace_of_use positive member same
  have outcome := outcome_of_isPlace ratio metrics isLine nonempty place
  refine ⟨line, found, isLine, first, start, ?_, ?_, ?_⟩
  · intro fault failed
    rw [failed] at outcome
    cases outcome with
    | notMeasured unmeasured => exact Or.inr ⟨_, rfl, unmeasured⟩
    | outsideBox measured full => exact Or.inl rfl
  · intro mark drawn
    rw [drawn] at outcome
    cases outcome with
    | marked measured room marks =>
      refine ⟨?_, ?_, marks.text, _, measured, marks.left⟩
      · rw [marks.start, start]
      · rw [marks.stop, stop, start, Int.natCast_add]
  · intro measure agree
    exact highlight_congr_measure ratio isLine nonempty place agree

/-- The import after the one in inline code is marked, also when a line was added below. -/
theorem highlight_second_import :
    let old := "`import os` then import os".toList
    let new := "`import os` then import os\nmore".toList
    let use : CodeUse := ⟨⟨1, "import os".toList, 17, 26⟩, .python⟩
    let metrics : Metrics := ⟨10, 20, 8, 4, 400, none, averageMeasurer 10 0.6⟩
    (∀ limit ∈ ({} : Settings).useLength, 1 ≤ limit) ∧ use ∈ CodeUse.ofDocument {} old ∧
      (lines new).take use.line.toNat = (lines old).take use.line.toNat ∧
      (highlight 0.6 metrics (lines new) use.toPassage).toOption.isSome = true ∧
      ∀ mark, highlight 0.6 metrics (lines new) use.toPassage = .ok mark →
        mark.start = 17 ∧ mark.stop = 26 ∧ mark.text = use.text ∧
          ∃ before, averageMeasurer 10 0.6 "`import os` then ".toList = .ok before ∧
            mark.left = 8 + before := by
  intro old new use metrics
  have positive : ∀ limit ∈ ({} : Settings).useLength, 1 ≤ limit := by
    intro limit kept
    cases kept
    decide
  have member : use ∈ CodeUse.ofDocument {} old := by decide +kernel
  have same : (lines new).take use.line.toNat = (lines old).take use.line.toNat := by
    decide +kernel
  obtain ⟨line, found, isLine, first, start, -, drawn, -⟩ :=
    highlight_use_of_agreeing {} 0.6 metrics old new use positive member same
  have whole : line? (lines new) use.line = some "`import os` then import os".toList := by
    decide +kernel
  have begins : lineStart (lines new) use.line = 0 := by decide +kernel
  rw [whole] at isLine
  cases isLine
  have place : found.place.start = 17 := by
    rw [begins] at start
    change (17 : Int) = (0 + found.place.start : Nat) at start
    omega
  refine ⟨positive, member, same, by decide +kernel, ?_⟩
  intro mark marked
  have result := drawn mark marked
  rw [place] at result
  exact result

end MarkdownReview.Surface
