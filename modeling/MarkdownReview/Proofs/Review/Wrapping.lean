import MarkdownReview.Proofs.Review.Reports
/-!
What comes of following the advice. When every reported line is put into a fenced block of its own,
nothing is reported any more; the fences of the document stay as they were, and so do its headings.
-/

namespace MarkdownReview

namespace Document

def block (line : Text) : List Text := [fence, line, fence]

theorem endsInside_block {line : Text} (notMarker : isMarker line = false) :
    endsInside (block line) = false := by
  simp [endsInside, countMarkers, block, notMarker]

def wrapLines (chosen : Nat → Bool) : (number : Nat) → List Text → List Text
  | _, [] => []
  | number, line :: rest =>
    (if chosen number then block line else [line]) ++ wrapLines chosen (number + 1) rest

theorem newline_not_mem_wrapLines {lines : List Text} (clean : ∀ line ∈ lines, newline ∉ line)
    (chosen : Nat → Bool) (number : Nat) :
    ∀ line ∈ wrapLines chosen number lines, newline ∉ line := by
  induction lines generalizing number with
  | nil =>
    intro line member
    exact absurd member List.not_mem_nil
  | cons first rest ih =>
    rw [List.forall_mem_cons] at clean
    have fenceClean : newline ∉ fence := by decide
    rw [wrapLines, List.forall_mem_append]
    refine ⟨?_, ih clean.2 (number + 1)⟩
    split
    · simp only [block, List.forall_mem_cons]
      exact ⟨fenceClean, clean.1, fenceClean, List.forall_mem_nil _⟩
    · exact List.forall_mem_singleton.mpr clean.1

theorem wrapLines_ne_nil {lines : List Text} (nonempty : lines ≠ []) (chosen : Nat → Bool)
    (number : Nat) : wrapLines chosen number lines ≠ [] := by
  cases lines with
  | nil => exact absurd rfl nonempty
  | cons first rest =>
    rw [wrapLines]
    split <;> simp [block]

end Document

open Document (FenceState lines endsInside block wrapLines)

namespace OpenLine

theorem uncovered_block {state : FenceState} {line : Text} (uncovered : state.covers line = false)
    (number start : Nat) : OpenLine.uncovered state number start (block line) = [] := by
  obtain ⟨notMarker, outside⟩ := FenceState.covers_eq_false_iff.mp uncovered
  simp [OpenLine.uncovered, block, FenceState.covers, FenceState.step, notMarker, outside]

end OpenLine

namespace Advice

def isReported (settings : Settings) (document : Text) (number : Nat) : Bool :=
  (Hint.ofDocument settings document).any (·.line == number) ||
    (CodeUse.ofDocument settings document).any (·.line == (number : Int))

/-- The document in which each reported line stands in a block of its own. -/
def follow (settings : Settings) (document : Text) : Text :=
  Document.join (wrapLines (isReported settings document) 1 (lines document))

def looksLikeCode (line : Text) : Bool :=
  Code.isSuspect line || (Code.firstMatch? line).isSome

/-- What the reports are about, read off the line and the state in which it is met. -/
def isExposed (state : FenceState) (line : Text) : Bool :=
  !state.covers line && OpenLine.mayHoldCode line && looksLikeCode line

theorem isExposed_eq_true_iff {state : FenceState} {line : Text} :
    isExposed state line = true ↔ state.covers line = false ∧
      OpenLine.mayHoldCode line = true ∧ looksLikeCode line = true := by
  simp only [isExposed, Bool.and_eq_true, Bool.not_eq_true', and_assoc]

theorem isReported_eq_true_iff {settings : Settings} {document : Text} {number : Nat} :
    isReported settings document number = true ↔
      (number : Int) ∈ (Hint.ofDocument settings document).map (fun hint => (hint.line : Int)) ∨
        (number : Int) ∈ (CodeUse.ofDocument settings document).map fun use => use.line := by
  simp only [isReported, Bool.or_eq_true, List.any_eq_true, beq_iff_eq, List.mem_map, Int.ofNat_inj]

theorem isReported_eq_isExposed {settings : Settings} {document : Text} {before : List Text}
    {line : Text} {after : List Text} (split : lines document = before ++ line :: after) :
    isReported settings document (before.length + 1) =
      isExposed (FenceState.after {} before) line := by
  rw [Bool.eq_iff_iff, isReported_eq_true_iff, isExposed_eq_true_iff,
    (Hint.enumerates settings document).mem_iff, (CodeUse.enumerates settings document).mem_iff,
    split]
  simp only [Int.natCast_succ, Document.isUncovered_append_cons_iff, and_assoc,
    exists_eq_left, ← and_or_left, looksLikeCode, Bool.or_eq_true]

/-- Lines among which each exposed one stands in a block of its own, the first met in the given
state. -/
def wrapExposed : FenceState → List Text → List Text
  | _, [] => []
  | state, line :: rest =>
    (if isExposed state line then block line else [line]) ++ wrapExposed (state.step line) rest

theorem wrapLines_eq_wrapExposed (settings : Settings) {document : Text} (before rest : List Text)
    (split : lines document = before ++ rest) :
    wrapLines (isReported settings document) (before.length + 1) rest =
      wrapExposed (FenceState.after {} before) rest := by
  -- The lines passed so far give both the number and the state of the next one.
  induction rest generalizing before with
  | nil => rfl
  | cons line rest ih =>
    have next : lines document = before ++ [line] ++ rest := by
      rw [split, List.append_assoc, List.singleton_append]
    have later := ih (before ++ [line]) next
    rw [List.length_append, List.length_singleton, FenceState.after, List.foldl_append] at later
    rw [wrapLines, wrapExposed, isReported_eq_isExposed split, later]
    rfl

theorem lines_follow (settings : Settings) (document : Text) :
    lines (follow settings document) = wrapExposed {} (lines document) := by
  have clean := Document.newline_not_mem_wrapLines
    (fun line (member : line ∈ lines document) => Document.newline_not_mem member)
    (isReported settings document) 1
  have nonempty := Document.wrapLines_ne_nil (Document.lines_ne_nil document)
    (isReported settings document) 1
  calc
    lines (follow settings document) =
        wrapLines (isReported settings document) 1 (lines document) :=
      List.splitOn_intercalate Document.newline clean nonempty
    _ = wrapExposed {} (lines document) :=
      wrapLines_eq_wrapExposed settings [] (lines document) (List.nil_append _).symm

theorem endsInside_wrapExposed (state : FenceState) (lines : List Text) :
    endsInside (wrapExposed state lines) = endsInside lines := by
  induction lines generalizing state with
  | nil => rfl
  | cons line rest ih =>
    have cut : endsInside (line :: rest) = (endsInside [line] ^^ endsInside rest) :=
      Document.endsInside_append [line] rest
    rw [wrapExposed, Document.endsInside_append, ih, cut]
    congr 1
    by_cases exposed : isExposed state line = true
    · obtain ⟨notMarker, -⟩ :=
        FenceState.covers_eq_false_iff.mp (isExposed_eq_true_iff.mp exposed).1
      rw [if_pos exposed, Document.endsInside_block notMarker]
      simp [endsInside, Document.countMarkers, notMarker]
    · rw [if_neg exposed]

theorem texts_wrapExposed {state other : FenceState} (same : other.inside = state.inside)
    (number start otherNumber otherStart : Nat) (lines : List Text) :
    (OpenLine.uncovered other otherNumber otherStart (wrapExposed state lines)).map (·.text) =
      ((OpenLine.uncovered state number start lines).map (·.text)).filter fun text =>
        !(OpenLine.mayHoldCode text && looksLikeCode text) := by
  induction lines generalizing state other number start otherNumber otherStart with
  | nil => rfl
  | cons line rest ih =>
    have covers := FenceState.covers_congr same line
    by_cases exposed : isExposed state line = true
    · obtain ⟨uncovered, mayHold, code⟩ := isExposed_eq_true_iff.mp exposed
      obtain ⟨notMarker, -⟩ := FenceState.covers_eq_false_iff.mp uncovered
      -- The block closes the fence that it opens, so the scan goes on where it stood.
      have unmoved : (other.after (block line)).inside = (state.step line).inside := by
        rw [FenceState.inside_after, Document.endsInside_block notMarker, Bool.xor_false, same,
          FenceState.step_eq_self notMarker]
      rw [wrapExposed, if_pos exposed, OpenLine.uncovered_append,
        OpenLine.uncovered_block (covers.trans uncovered), List.nil_append,
        ih unmoved (number + 1) (start + line.length + 1), OpenLine.uncovered]
      simp [uncovered, mayHold, code]
    · have later := ih (FenceState.inside_step_congr same line) (number + 1)
        (start + line.length + 1) (otherNumber + 1) (otherStart + line.length + 1)
      rw [wrapExposed, if_neg exposed, List.singleton_append, OpenLine.uncovered, covers,
        OpenLine.uncovered]
      cases covered : state.covers line with
      | true => exact later
      | false =>
        have kept : (!(OpenLine.mayHoldCode line && looksLikeCode line)) = true := by
          rw [Bool.not_eq_true', Bool.eq_false_iff, ne_eq, Bool.and_eq_true]
          exact fun both => exposed (isExposed_eq_true_iff.mpr ⟨covered, both⟩)
        simp only [Bool.false_eq_true, if_false, List.map_cons, later, List.filter_cons, kept,
          if_true]

theorem looksLikeCode_follow {settings : Settings} {document : Text} {line : OpenLine}
    (isOpen : line ∈ OpenLine.ofDocument (follow settings document)) :
    looksLikeCode line.text = false := by
  rw [OpenLine.ofDocument, OpenLine.ofLines, OpenLine.scan_eq_filter, List.mem_filter,
    lines_follow] at isOpen
  have texts := texts_wrapExposed (rfl : ({} : FenceState).inside = false) 1 0 1 0 (lines document)
  have member := List.mem_map_of_mem (f := fun found : OpenLine => found.text) isOpen.1
  rw [texts, List.mem_filter, isOpen.2, Bool.true_and, Bool.not_eq_true'] at member
  exact member.2

theorem headingLines_follow (settings : Settings) (document : Text) :
    (HeadingLine.ofDocument (lines (follow settings document))).map (·.2) =
      (HeadingLine.ofDocument (lines document)).map (·.2) := by
  rw [HeadingLine.ofDocument, HeadingLine.ofDocument, HeadingLine.map_snd_scan {} 1 0,
    HeadingLine.map_snd_scan {} 1 0, lines_follow, texts_wrapExposed rfl 1 0, List.filterMap_filter]
  apply List.filterMap_congr
  intro text uncovered
  cases read : HeadingLine.ofLine? text with
  | none => rw [ite_self]
  | some heading =>
    rw [HeadingLine.mayHoldCode_eq_false read, Bool.false_and, Bool.not_false, if_pos rfl]

/-- In the document that follows the advice nothing is reported, neither by the hints nor by the
code uses. Its last fence is open exactly if it was before, and that is all that can keep it from
being saved. Its headings are those of the document, further down. -/
theorem follow_clears (settings : Settings) (document : Text) :
    let followed := follow settings document
    Hint.ofDocument settings followed = [] ∧
      CodeUse.ofDocument settings followed = [] ∧
      endsInside (lines followed) = endsInside (lines document) ∧
      (SaveCheck.findings settings followed = [] ↔ endsInside (lines document) = false) ∧
      (Contents.ofDocument settings.unicodeAnchors followed).headings.map Heading.unnumbered =
        (Contents.ofDocument settings.unicodeAnchors document).headings.map
          Heading.unnumbered := by
  intro followed
  have hints : Hint.ofDocument settings followed = [] := by
    apply List.filterMap_eq_nil_iff.mpr
    intro line isOpen
    have plain := (Bool.or_eq_false_iff.mp (looksLikeCode_follow isOpen)).1
    rwa [← Hint.isSome_ofLine? settings, Option.isSome_eq_false_iff, Option.isNone_iff_eq_none] at plain
  have noUse : ∀ line ∈ OpenLine.ofDocument followed, CodeUse.ofLine? settings line = none := by
    intro line isOpen
    have plain := (Bool.or_eq_false_iff.mp (looksLikeCode_follow isOpen)).2
    rwa [← CodeUse.isSome_ofLine? settings, Option.isSome_eq_false_iff, Option.isNone_iff_eq_none] at plain
  have ends : endsInside (lines followed) = endsInside (lines document) := by
    rw [lines_follow, endsInside_wrapExposed]
  have uses : CodeUse.ofDocument settings followed = [] := List.filterMap_eq_nil_iff.mpr noUse
  refine ⟨hints, uses, ends, ?_, ?_⟩
  · simp [SaveCheck.findings, uses, ends]
  · exact Contents.unnumbered_headingsFrom settings.unicodeAnchors {} 0
      (headingLines_follow settings document)

/-- The import below the listing is wrapped, and the one in it is left alone. -/
example :
    follow {} "```\nimport a\n```\nimport b\n# A".toList =
      "```\nimport a\n```\n```\nimport b\n```\n# A".toList := by
  decide +kernel

end Advice
end MarkdownReview
