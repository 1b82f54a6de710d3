import MarkdownReview.Proofs.Command.Run
import MarkdownReview.Proofs.Settings.Discovery
/-!
Texts that are written with other line ends. Unifying the line ends gives the text back, whichever
of them it was written with.
-/

namespace MarkdownReview.Text

/-- The line ends that count as a newline. -/
def lineEnds : List Text := [['\n'], ['\r', '\n'], ['\r']]

def endLinesBy (ending text : Text) : Text :=
  text.flatMap fun c => if c = '\n' then ending else [c]

theorem endLinesBy_newline (ending rest : Text) :
    endLinesBy ending ('\n' :: rest) = ending ++ endLinesBy ending rest := rfl

theorem endLinesBy_cons {c : Char} (inner : c ≠ '\n') (ending rest : Text) :
    endLinesBy ending (c :: rest) = c :: endLinesBy ending rest := by
  rw [endLinesBy, List.flatMap_cons, if_neg inner]
  rfl

theorem endLinesBy_self (text : Text) : endLinesBy ['\n'] text = text := by
  induction text with
  | nil => rfl
  | cons c rest ih =>
    by_cases newline : c = '\n'
    · rw [newline, endLinesBy_newline, ih]
      rfl
    · rw [endLinesBy_cons newline, ih]

theorem unifyNewlines_cons {c : Char} (ordinary : c ≠ '\r') (rest : Text) :
    unifyNewlines (c :: rest) = c :: unifyNewlines rest := by
  rw [unifyNewlines]
  · intro later same
    exact absurd same ordinary
  · exact ordinary

theorem unifyNewlines_return {rest : Text} (alone : rest.head? ≠ some '\n') :
    unifyNewlines ('\r' :: rest) = '\n' :: unifyNewlines rest := by
  rw [unifyNewlines]
  rintro later rfl
  exact alone rfl

theorem head?_endLinesBy_return (text : Text) : (endLinesBy ['\r'] text).head? ≠ some '\n' := by
  cases text with
  | nil => exact nofun
  | cons c rest =>
    by_cases newline : c = '\n'
    · rw [newline, endLinesBy_newline]
      simp
    · rw [endLinesBy_cons newline]
      simpa using newline

/-- No line end joins with what is written after it. -/
theorem unifyNewlines_append_endLinesBy {ending : Text} (known : ending ∈ lineEnds) (rest : Text) :
    unifyNewlines (ending ++ endLinesBy ending rest) =
      '\n' :: unifyNewlines (endLinesBy ending rest) := by
  simp only [lineEnds, List.mem_cons, List.not_mem_nil, or_false] at known
  rcases known with rfl | rfl | rfl
  · exact unifyNewlines_cons (by decide) _
  · rfl
  · exact unifyNewlines_return (head?_endLinesBy_return rest)

theorem unifyNewlines_endLinesBy {ending text : Text} (known : ending ∈ lineEnds)
    (plain : '\r' ∉ text) : unifyNewlines (endLinesBy ending text) = text := by
  induction text with
  | nil => rfl
  | cons c rest ih =>
    obtain ⟨ordinary, later⟩ := not_or.mp (mt List.mem_cons.mpr plain)
    by_cases newline : c = '\n'
    · rw [newline, endLinesBy_newline, unifyNewlines_append_endLinesBy known, ih later]
    · rw [endLinesBy_cons newline, unifyNewlines_cons (Ne.symm ordinary), ih later]

end MarkdownReview.Text

/-!
Runs on a document that is written with other line ends. The bytes of a document decide nothing but
the text that the report is on, and that text is the same for all of them.
-/

namespace MarkdownReview

namespace Discovery

/-- No search for settings reads a file of this name. -/
def IsNoSource (place : Place) : Prop := ∀ source ∈ sources, place.getLast? ≠ some source.file

theorem fileOf_ne {place : Place} (noSource : IsNoSource place) {directory : Place}
    {candidate : Place × Source} (member : candidate ∈ candidates directory) :
    fileOf candidate ≠ place := by
  rintro rfl
  obtain ⟨above, -, listed⟩ := List.mem_flatMap.mp member
  obtain ⟨source, known, rfl⟩ := List.mem_map.mp listed
  exact noSource source known List.getLast?_concat

theorem find_write {place : Place} (noSource : IsNoSource place) (tree : FileTree)
    (first second : List UInt8) (directory : Place) :
    find (tree.write place first) directory = find (tree.write place second) directory := by
  apply firstHeld_congr
  intro candidate member
  apply held?_congr
  rw [FileTree.bytes?, FileTree.bytes?, tree.node?_write_of_ne (fileOf_ne noSource member)]

end Discovery

namespace Command

open Text

theorem documentAt_write (tree : FileTree) {home place : Place} {path : Text}
    (leads : (Path.ofText path).place home = place) (text : Text) :
    documentAt (tree.write place (Utf8.encode text)) home path = .ok (unifyNewlines text) := by
  have given := tree.node?_write_self place (Utf8.encode text)
  unfold documentAt
  simp only [leads, FileTree.bytes?, given, Option.getD_some, Utf8.decode_eq_ok_iff.mpr rfl]

theorem documentAt_write_of_ne (tree : FileTree) {home place : Place} {path : Text}
    (elsewhere : (Path.ofText path).place home ≠ place) (first second : List UInt8) :
    documentAt (tree.write place first) home path =
      documentAt (tree.write place second) home path := by
  have same := tree.node?_write_of_ne elsewhere first second
  unfold documentAt
  simp only [FileTree.bytes?, same]

theorem documentAt_write_endLinesBy (tree : FileTree) {home place : Place} {path ending text : Text}
    (known : ending ∈ lineEnds) (plain : '\r' ∉ text)
    (leads : (Path.ofText path).place home = place) :
    documentAt (tree.write place (Utf8.encode (endLinesBy ending text))) home path = .ok text := by
  rw [documentAt_write tree leads, unifyNewlines_endLinesBy known plain]

/-- A document may be written with any line ends: every run is the one on its text with newlines,
and what a run shows that gets as far as reading the document and does not fail is the report on
that text. -/
theorem run_of_line_ends {toolkit : Toolkit} (documented : toolkit.Documented) (tree : FileTree)
    (home place : Place) (text : Text) (noSource : Discovery.IsNoSource place)
    (plain : '\r' ∉ text) :
    ∀ ending ∈ lineEnds,
      let written := tree.write place (Utf8.encode (endLinesBy ending text))
      (∀ arguments, toolkit.run written home arguments =
        toolkit.run (tree.write place (Utf8.encode text)) home arguments) ∧
      ∀ arguments options path, toolkit.start written home arguments = .call options path →
        (Path.ofText path).place home = place →
        (toolkit.run written home arguments).exitCode = 0 →
        ∃ settings, toolkit.run written home arguments =
          let report := toolkit.report options settings text
          ⟨0, report.output, report.errors⟩ := by
  intro ending known written
  have newline : ['\n'] ∈ lineEnds := List.mem_cons_self
  have documents : ∀ path, documentAt written home path =
      documentAt (tree.write place (Utf8.encode text)) home path := by
    intro path
    by_cases leads : (Path.ofText path).place home = place
    · have usual := documentAt_write_endLinesBy tree newline plain leads
      rw [endLinesBy_self] at usual
      rw [usual, documentAt_write_endLinesBy tree known plain leads]
    · exact documentAt_write_of_ne tree leads _ _
  constructor
  · have shape :=
      tree.sameShape_write place (Utf8.encode (endLinesBy ending text)) (Utf8.encode text)
    exact Toolkit.run_congr documented shape (Discovery.find_write noSource tree _ _) documents
  · intro arguments options path started leads succeeded
    have given : documentAt written home path = .ok text :=
      documentAt_write_endLinesBy tree known plain leads
    have result := Toolkit.run_of_call documented started
    rw [prepared, given] at result
    cases found : settingsFor written ((Path.ofText path).place home).dropLast
        options.unicodeAnchors with
    | error failure =>
      rw [found] at result
      rw [result] at succeeded
      exact absurd succeeded failure.exitCode_ne_zero
    | ok settings =>
      rw [found] at result
      exact ⟨settings, result⟩

/-- Empty lines at the ends and in between, written with carriage returns. -/
theorem run_of_line_ends_return :
    let name := "a.md".toList
    let arguments := called [.locate] name
    let text := "\n# T\n\n\nlet x = 1\n\n".toList
    let tree : FileTree := ⟨[([Discovery.ownFile], .file [])]⟩
    let written (bytes : List Char) := tree.write [name] (Utf8.encode bytes)
    let run (bytes : List Char) := Toolkit.plain.run (written bytes) [] arguments
    Discovery.IsNoSource [name] ∧ '\r' ∉ text ∧
      ['\r'] ∈ lineEnds ∧ ['\r', '\n'] ∈ lineEnds ∧
      endLinesBy ['\r', '\n'] text = "\r\n# T\r\n\r\n\r\nlet x = 1\r\n\r\n".toList ∧
      run (endLinesBy ['\r'] text) = run text ∧
      run (endLinesBy ['\r', '\n'] text) = run text ∧
      ∃ settings, run (endLinesBy ['\r'] text) =
        let report := Toolkit.plain.report { uses := true } settings text
        ⟨0, report.output, report.errors⟩ := by
  intro name arguments text tree written run
  have noSource : Discovery.IsNoSource [name] := by
    unfold Discovery.IsNoSource
    decide
  have plain : '\r' ∉ text := by decide
  have alone : ['\r'] ∈ lineEnds := by decide
  have both : ['\r', '\n'] ∈ lineEnds := by decide
  have started : Toolkit.plain.start (written (endLinesBy ['\r'] text)) [] arguments =
      .call { uses := true } name := by decide +kernel
  have succeeded : (run (endLinesBy ['\r'] text)).exitCode = 0 := by decide +kernel
  have same := run_of_line_ends Toolkit.documented_plain tree [] [name] text noSource plain
  exact ⟨noSource, plain, alone, both, rfl, (same _ alone).1 arguments, (same _ both).1 arguments,
    (same _ alone).2 arguments _ _ started rfl succeeded⟩

end Command
end MarkdownReview
