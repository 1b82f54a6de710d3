import Mathlib.Data.List.Forall2
import MarkdownReview.Proofs.Heading.Contents
import MarkdownReview.Proofs.Review.CodeUse
/-!
Which lines are reported. The hints, the code uses and the quick check each report exactly the open
lines that pass a test of their own. A heading is on no open line, so none of them reports it.
-/

namespace MarkdownReview

open Document (Enumerates lines)

theorem Hint.isSome_ofLine? (settings : Settings) (line : OpenLine) :
    (ofLine? settings line).isSome = Code.isSuspect line.text := by
  unfold ofLine?
  cases Code.isSuspect line.text <;> rfl

theorem CodeUse.isSome_ofLine? (settings : Settings) (line : OpenLine) :
    (ofLine? settings line).isSome = (Code.firstMatch? line.text).isSome :=
  Option.isSome_map

theorem Hint.enumerates (settings : Settings) (document : Text) :
    Enumerates (lines document)
      (fun line => OpenLine.mayHoldCode line = true ∧ Code.isSuspect line = true)
      ((ofDocument settings document).map fun hint => (hint.line : Int)) := by
  apply OpenLine.enumerates_ofLines
  · intro line
    rw [isSome_ofLine?]
  · intro line hint read
    obtain ⟨-, same⟩ := Option.ite_none_right_eq_some.mp read
    cases same
    rfl

theorem CodeUse.enumerates (settings : Settings) (document : Text) :
    Enumerates (lines document)
      (fun line => OpenLine.mayHoldCode line = true ∧ (Code.firstMatch? line).isSome = true)
      ((ofDocument settings document).map fun use => use.line) := by
  apply OpenLine.enumerates_ofLines
  · intro line
    rw [isSome_ofLine?]
  · intro line use read
    obtain ⟨found, -, rfl⟩ := Option.map_eq_some_iff.mp read
    rfl

namespace QuickCheck

def Finding.line? : Finding → Option Int
  | .unclosedFence => none
  | .highScore line => some line

theorem enumerates (settings : Settings) (document : Text) :
    Enumerates (lines document)
      (fun line => OpenLine.mayHoldCode line = true ∧ settings.leastScore ≤ Code.score line)
      ((findings settings document).filterMap Finding.line?) := by
  have unclosed : (if Document.endsInside (lines document) then [Finding.unclosedFence]
      else []).filterMap Finding.line? = [] := by
    split <;> rfl
  have scored : (findings settings document).filterMap Finding.line? =
      ((OpenLine.ofLines (lines document)).filterMap fun line =>
        if settings.leastScore ≤ Code.score line.text then some line.number else none).map
          Int.ofNat := by
    rw [findings, List.filterMap_append, unclosed, highScores, List.filterMap_filterMap,
      List.map_filterMap]
    apply List.filterMap_congr
    intro line isOpen
    split <;> rfl
  rw [scored]
  apply OpenLine.enumerates_ofLines
  · intro line
    simp
  · intro line number read
    obtain ⟨-, same⟩ := Option.ite_none_right_eq_some.mp read
    cases same
    rfl

end QuickCheck

/-- Hints, code uses and high scores are reported of exactly those lines that no fence covers, that
hold more than blanks, that do not start with a mark and that pass the test in question: each once,
by its number, in ascending order. No line of a heading is reported. -/
theorem reports_enumerate (settings : Settings) (document : Text) :
    let isOpen (line : Text) := Text.trim line ≠ [] ∧ ¬[headingMark] <+: Text.trim line
    let hints := (Hint.ofDocument settings document).map fun hint => (hint.line : Int)
    let uses := (CodeUse.ofDocument settings document).map fun use => use.line
    let scores := (QuickCheck.findings settings document).filterMap QuickCheck.Finding.line?
    Enumerates (lines document) (fun line => isOpen line ∧ Code.isSuspect line = true) hints ∧
      Enumerates (lines document)
        (fun line => isOpen line ∧ ∃ found, Code.firstMatch? line = some found) uses ∧
      Enumerates (lines document)
        (fun line => isOpen line ∧ settings.leastScore ≤ Code.score line) scores ∧
      ∀ heading ∈ (Contents.ofDocument settings.unicodeAnchors document).headings,
        (heading.line : Int) ∉ hints ∧ (heading.line : Int) ∉ uses ∧
          (heading.line : Int) ∉ scores := by
  intro isOpen hints uses scores
  have ofHints := Hint.enumerates settings document
  have ofUses := CodeUse.enumerates settings document
  have ofScores := QuickCheck.enumerates settings document
  have ofHeadings := Contents.enumerates_headings settings.unicodeAnchors document
  have apart (holds : Text → Prop) (line : Text)
      (heading : ∃ spelled, HeadingLine.Spells line spelled) :
      ¬(OpenLine.mayHoldCode line = true ∧ holds line) := by
    obtain ⟨spelled, spells⟩ := heading
    have closed := HeadingLine.mayHoldCode_eq_false (HeadingLine.ofLine?_of_spells spells)
    rw [closed]
    exact fun both => Bool.false_ne_true both.1
  have noHeading : ∀ heading ∈ (Contents.ofDocument settings.unicodeAnchors document).headings,
      (heading.line : Int) ∉ hints ∧ (heading.line : Int) ∉ uses ∧
        (heading.line : Int) ∉ scores := by
    intro heading member
    have listed := List.mem_map_of_mem (f := fun heading : Heading => (heading.line : Int)) member
    exact ⟨ofHeadings.disjoint ofHints (apart _) listed, ofHeadings.disjoint ofUses (apart _) listed,
      ofHeadings.disjoint ofScores (apart _) listed⟩
  simp only [OpenLine.mayHoldCode_eq_true_iff, Option.isSome_iff_exists] at ofHints ofUses ofScores
  exact ⟨ofHints, ofUses, ofScores, noHeading⟩

/-- Of the two imports the fenced one is not reported, and the heading with brackets is not, though
it would pass the test of the hints. -/
theorem reports_enumerate_import :
    let document := "# [A](b)\n```\nimport a\n```\n \nimport b;\nsee x.y();".toList
    let heading : Heading := ⟨"a".toList, "A".toList, "A".toList, 1, 0, 1⟩
    heading ∈ (Contents.ofDocument false document).headings ∧
      (heading.line : Int) ∉ (Hint.ofDocument {} document).map (fun hint => (hint.line : Int)) ∧
      (Hint.ofDocument {} document).map (·.line) = [6, 7] ∧
      (CodeUse.ofDocument {} document).map (·.line) = [6] ∧
      (QuickCheck.findings {} document).filterMap QuickCheck.Finding.line? = [7] := by
  intro document heading
  obtain ⟨-, -, -, noHeading⟩ := reports_enumerate {} document
  have listed : heading ∈ (Contents.ofDocument false document).headings := by decide +kernel
  have hints : (Hint.ofDocument {} document).map (·.line) = [6, 7] := by decide +kernel
  have uses : (CodeUse.ofDocument {} document).map (·.line) = [6] := by decide +kernel
  have scores : (QuickCheck.findings {} document).filterMap QuickCheck.Finding.line? = [7] := by
    decide +kernel
  exact ⟨listed, (noHeading heading listed).1, hints, uses, scores⟩

end MarkdownReview

/-!
What keeps a document from being saved: a block that is not closed, and every code use, reported
with the line that it stands on. The settings decide how much of it is shown, and nothing else.
-/

namespace MarkdownReview

namespace CodeUse

open Document (line? lines)

theorem infix_of_ofLine? {settings : Settings} {document : Text} {line : OpenLine} {use : CodeUse}
    (isOpen : line ∈ OpenLine.ofDocument document) (read : ofLine? settings line = some use) :
    line? (lines document) use.line = some line.text ∧ use.text <:+: line.text := by
  obtain ⟨found, beginning⟩ := isBeginning_of_ofLine? read
  obtain ⟨isLine, -, -⟩ := OpenLine.stands_of_mem isOpen
  have upTo : line.text.take found.place.stop <:+: line.text := (List.take_prefix _ _).isInfix
  have whole := (List.drop_suffix found.place.start (line.text.take found.place.stop)).isInfix
  rw [beginning.number]
  exact ⟨isLine, beginning.text_prefix.isInfix.trans (whole.trans upTo)⟩

end CodeUse

namespace SaveCheck

open Document (line? lines countMarkers IsUncovered Enumerates)

variable {settings : Settings} {document : Text}

def Finding.line? : Finding → Option Int
  | .unclosedFence => none
  | .unfenced use _ => some use.line

/-- A finding that reports a use and quotes a line of the document with its text on it. -/
def Quotes (settings : Settings) (lines : List Text) (use : CodeUse) (finding : Finding) : Prop :=
  ∃ line, Document.line? lines use.line = some line ∧ use.text <:+: line ∧
    finding = .unfenced use (Text.preview settings.quoteLength (Text.trim line))

theorem quotes_report {use : CodeUse} (member : use ∈ CodeUse.ofDocument settings document) :
    Quotes settings (lines document) use (report settings (lines document) use) := by
  obtain ⟨line, isOpen, read⟩ := List.mem_filterMap.mp member
  obtain ⟨isLine, inside⟩ := CodeUse.infix_of_ofLine? isOpen read
  refine ⟨line.text, isLine, inside, ?_⟩
  rw [report, isLine, Option.getD_some]

theorem findings_eq (settings : Settings) (document : Text) :
    findings settings document =
      (if countMarkers (lines document) % 2 = 1 then [.unclosedFence] else []) ++
        (CodeUse.ofDocument settings document).map (report settings (lines document)) := by
  simp only [findings, Document.endsInside_iff]

theorem lines_reports (settings : Settings) (document : Text) :
    ((CodeUse.ofDocument settings document).map (report settings (lines document))).map
        Finding.line? =
      ((CodeUse.ofDocument settings document).map fun use => use.line).map some := by
  rw [List.map_map, List.map_map]
  rfl

theorem lines_findings (settings other : Settings) (document : Text) :
    (findings other document).map Finding.line? =
      (findings settings document).map Finding.line? := by
  have numbers := (CodeUse.enumerates other document).unique (CodeUse.enumerates settings document)
  rw [findings_eq, findings_eq, List.map_append, List.map_append, lines_reports, lines_reports,
    numbers]

/-- A document may be saved exactly if its markers are even in number and no statement form stands
outside inline code on an open line, so no setting can let a document pass or keep it back, nor
change how many findings there are and which lines they are about. The findings are that of a block
that is not closed, if the markers are odd in number, and then one for each code use, by ascending
lines, which quotes the line that the use stands on. -/
theorem findings_report_uses (settings : Settings) (document : Text) :
    let markers := countMarkers (lines document)
    let uses := CodeUse.ofDocument settings document
    (findings settings document = [] ↔ markers % 2 = 0 ∧
      ¬∃ number line, IsUncovered (lines document) number line ∧ Text.trim line ≠ [] ∧
        ¬[headingMark] <+: Text.trim line ∧ ∃ found, Code.firstMatch? line = some found) ∧
    (∀ other, (findings other document = [] ↔ findings settings document = []) ∧
      (findings other document).map Finding.line? =
        (findings settings document).map Finding.line?) ∧
    (∃ reports, findings settings document =
        (if markers % 2 = 1 then [.unclosedFence] else []) ++ reports ∧
      List.Forall₂ (Quotes settings (lines document)) uses reports) ∧
    uses.Pairwise fun first second => first.line < second.line := by
  intro markers uses
  have byLine := CodeUse.enumerates settings document
  refine ⟨?verdict, ?others, ⟨_, findings_eq settings document, ?quotes⟩,
    List.pairwise_map.mp byLine.ascends⟩
  case verdict =>
    have even : (if markers % 2 = 1 then [Finding.unclosedFence] else []) = [] ↔
        markers % 2 = 0 := by
      rcases Nat.mod_two_eq_zero_or_one markers with even | odd
      · simp [even]
      · simp [odd]
    have reported : uses.map (report settings (lines document)) = [] ↔
        (uses.map fun use => use.line) = [] := by
      rw [List.map_eq_nil_iff, List.map_eq_nil_iff]
    rw [findings_eq, List.append_eq_nil_iff, even, reported, byLine.eq_nil_iff]
    simp only [OpenLine.mayHoldCode_eq_true_iff, Option.isSome_iff_exists, and_assoc]
  case others =>
    intro other
    have same := lines_findings settings other document
    refine ⟨?_, same⟩
    rw [← List.map_eq_nil_iff (f := Finding.line?), same, List.map_eq_nil_iff]
  case quotes =>
    rw [List.forall₂_map_right_iff, List.forall₂_same]
    intro use member
    exact quotes_report member

-- Cuts that leave nothing of a use and of its line do not keep it from being reported.
example :
    findings { useLength := some 0, quoteLength := some (-9) } "a\nimport os".toList =
      [.unfenced ⟨⟨2, [], 2, 2⟩, .python⟩ "...".toList] := by
  decide +kernel

end SaveCheck
end MarkdownReview
