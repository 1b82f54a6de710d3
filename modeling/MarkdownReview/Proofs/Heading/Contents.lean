import Mathlib.Data.List.Induction
import MarkdownReview.Proofs.Heading.Anchor
import MarkdownReview.Proofs.Heading.Line
import MarkdownReview.Proofs.Review.OpenLine
/-!
The anchors in a table of contents: each heading has the first candidate of its slug that no heading
before it has, so no two headings share one.
-/

namespace MarkdownReview.Contents

def slugs (unicode : Bool) (headings : List Heading) : List Text :=
  headings.map fun heading => Slug.ofText unicode heading.text

theorem anchors_headingsFrom (unicode : Bool) (pool : Anchor.Pool) (index : Nat)
    (found : List (Nat × HeadingLine)) :
    (headingsFrom unicode pool index found).map (·.anchor) =
      pool.giveAll (slugs unicode (headingsFrom unicode pool index found)) := by
  induction found generalizing pool index with
  | nil => rfl
  | cons first rest ih =>
    simp only [headingsFrom, slugs, List.map_cons, Anchor.Pool.giveAll]
    rw [ih]
    rfl

theorem anchors_ofDocument (unicode : Bool) (document : Text) :
    (ofDocument unicode document).headings.map (·.anchor) =
      Anchor.probeAll [] (Anchor.nameAll 0 (slugs unicode (ofDocument unicode document).headings)) := by
  have given := anchors_headingsFrom unicode {} 0 (HeadingLine.ofDocument (Document.lines document))
  rw [Anchor.Pool.giveAll_eq_probeAll Anchor.Pool.memoSound_empty] at given
  exact given

theorem nodup_anchors (unicode : Bool) (document : Text) :
    ((ofDocument unicode document).headings.map (·.anchor)).Nodup := by
  rw [anchors_ofDocument]
  exact (Anchor.probeAll_fresh [] _).1

/-- The i-th heading has the first of its slug's candidates that no heading before it has. The pool
agrees with a search from the bare slug on for any slugs at all, and no two anchors are the same. -/
theorem anchors_firstFree (settings : Settings) (document : Text) :
    let headings := (ofDocument settings.unicodeAnchors document).headings
    let named := Anchor.nameAll 0 (slugs settings.unicodeAnchors headings)
    (∀ i : Fin headings.length, ∃ slug, named[i.val]? = some slug ∧
      Anchor.FirstFree ((headings.take i).map (·.anchor)) slug headings[i].anchor) ∧
    (∀ bases, Anchor.Pool.giveAll {} bases = Anchor.probeAll [] (Anchor.nameAll 0 bases)) ∧
    (headings.map (·.anchor)).Nodup := by
  intro headings named
  have anchors : headings.map (·.anchor) = Anchor.probeAll [] named :=
    anchors_ofDocument settings.unicodeAnchors document
  refine ⟨?_, fun bases => Anchor.Pool.giveAll_eq_probeAll Anchor.Pool.memoSound_empty bases,
    nodup_anchors settings.unicodeAnchors document⟩
  · intro i
    have length : i.val < named.length := by
      have lengths := congrArg List.length anchors
      rw [List.length_map, Anchor.length_probeAll] at lengths
      rw [← lengths]
      exact i.isLt
    have anchor : (Anchor.probeAll [] named)[i.val]? = some headings[i].anchor := by
      rw [← anchors, List.getElem?_map, List.getElem?_eq_getElem i.isLt]
      rfl
    have first := Anchor.probeAll_firstFree (List.getElem?_eq_getElem length) anchor
    rw [← anchors, List.append_nil, ← List.map_take] at first
    exact ⟨_, List.getElem?_eq_getElem length, first⟩

/-- The anchors of headings that collide with numbered and with unnamed ones. -/
example :
    (ofDocument false "# A\n# A 1\n# A\n# -\n# Heading 1".toList).headings.map (·.anchor) =
      ["a", "a-1", "a-2", "heading-1", "heading-1-1"].map String.toList := by
  decide +kernel

end MarkdownReview.Contents

/-!
What a table of contents lists: an entry for each uncovered line that is written as a heading, in
the order of the document, and for each text of a heading the anchor of the last one that has it.
-/

namespace MarkdownReview

open Document (IsUncovered Enumerates)

namespace HeadingLine

theorem mem_ofDocument_iff {lines : List Text} {entry : Nat × HeadingLine} :
    entry ∈ ofDocument lines ↔
      ∃ line, IsUncovered lines entry.1 line ∧ Spells line entry.2 := by
  rw [ofDocument, scan_eq_filterMap {} 1 0, List.mem_filterMap]
  simp only [← OpenLine.exists_mem_uncovered_iff, ← ofLine?_eq_some_iff]
  constructor
  · intro read
    obtain ⟨line, member, found⟩ := read
    obtain ⟨heading, spelled, rfl⟩ := Option.map_eq_some_iff.mp found
    exact ⟨line.text, ⟨line, member, rfl, rfl⟩, spelled⟩
  · intro stands
    obtain ⟨text, ⟨line, member, numbered, rfl⟩, spelled⟩ := stands
    refine ⟨line, member, ?_⟩
    rw [spelled, Option.map_some, Int.ofNat_inj.mp numbered]

theorem enumerates_ofDocument (lines : List Text) :
    Enumerates lines (fun line => ∃ heading, Spells line heading)
      ((ofDocument lines).map fun entry => (entry.1 : Int)) := by
  rw [ofDocument, scan_eq_filterMap {} 1 0]
  apply OpenLine.enumerates_uncovered
  · intro line
    simp only [Option.isSome_map, Option.isSome_iff_exists, ofLine?_eq_some_iff]
  · intro line entry found
    obtain ⟨heading, -, rfl⟩ := Option.map_eq_some_iff.mp found
    rfl

end HeadingLine

namespace Contents

theorem enumerates_headings (unicode : Bool) (document : Text) :
    Enumerates (Document.lines document) (fun line => ∃ spelled, HeadingLine.Spells line spelled)
      ((ofDocument unicode document).headings.map fun heading => (heading.line : Int)) := by
  have numbers := congrArg (List.map Int.ofNat)
    (lines_headingsFrom unicode {} 0 (HeadingLine.ofDocument (Document.lines document)))
  rw [List.map_map, List.map_map] at numbers
  exact numbers ▸ HeadingLine.enumerates_ofDocument (Document.lines document)

theorem get?_indexByText (headings : List Heading) (text : Text) :
    (indexByText headings).get? text =
      ((headings.filter (·.text == text)).getLast?).map (·.anchor) := by
  induction headings using List.reverseRecOn with
  | nil => rfl
  | append_singleton headings last ih =>
    rw [indexByText, List.foldl_append, List.filter_append]
    change Table.get? (Table.insert last.text last.anchor (indexByText headings)) text = _
    by_cases same : last.text = text
    · rw [← same, Table.get?_insert_self]
      simp
    · rw [Table.get?_insert_of_ne _ _ (Ne.symm same), ih]
      simp [same]

theorem mem_keys_indexByText_iff {headings : List Heading} {text : Text} :
    text ∈ (indexByText headings).keys ↔ ∃ heading ∈ headings, heading.text = text := by
  rw [Table.mem_keys_iff, get?_indexByText, Option.isSome_map, List.getLast?_isSome, ne_eq,
    List.filter_eq_nil_iff]
  simp

theorem nodup_keys_indexByText (headings : List Heading) :
    (indexByText headings).keys.Nodup := by
  have entries : indexByText headings =
      Table.updated [] (headings.map fun heading => (heading.text, heading.anchor)) := by
    rw [Table.updated, List.foldl_map]
    rfl
  have distinct : (Table.keys ([] : Table Text Text)).Nodup := List.nodup_nil
  rw [entries]
  exact Table.nodup_keys_updated distinct _

/-- The headings are those of the uncovered lines that are written as headings, one for each, in the
order of the document; the level, the text and the index of each are what its line says, in the one
way in which it can be read, and the text is also what is shown. The index by text has the texts of
the headings, each with the anchor of the last heading that has it. -/
theorem lists_headingLines (settings : Settings) (document : Text) :
    let lines := Document.lines document
    let contents := ofDocument settings.unicodeAnchors document
    Enumerates lines (fun line => ∃ spelled, HeadingLine.Spells line spelled)
        (contents.headings.map fun heading => (heading.line : Int)) ∧
      (∀ (i : Nat) (heading : Heading), contents.headings[i]? = some heading →
        heading.index = i ∧ ∃ line spelled, IsUncovered lines heading.line line ∧
          (∀ other, HeadingLine.Spells line other ↔ other = spelled) ∧
          heading.level = spelled.level ∧ heading.display = heading.text ∧
          heading.text = PlainText.ofMarkup spelled.rest) ∧
      contents.byText.keys.Nodup ∧
      ∀ text, (text ∈ contents.byText.keys ↔ ∃ heading ∈ contents.headings, heading.text = text) ∧
        contents.byText.get? text =
          ((contents.headings.filter (·.text == text)).getLast?).map (·.anchor) := by
  intro lines contents
  refine ⟨?_, ?_, nodup_keys_indexByText contents.headings, ?_⟩
  · exact enumerates_headings settings.unicodeAnchors document
  · intro i heading stands
    obtain ⟨entry, isEntry, same⟩ := exists_entry_of_getElem? stands
    obtain ⟨line, uncovered, spells⟩ :=
      HeadingLine.mem_ofDocument_iff.mp (List.mem_of_getElem? isEntry)
    have number : heading.line = entry.1 := congrArg Heading.line same
    have index : heading.index = 0 + i := congrArg Heading.index same
    have level : heading.level = entry.2.level := congrArg Heading.level same
    have text := congrArg Heading.text same
    have display := congrArg Heading.display same
    rw [Heading.ofLine_display, ← text] at display
    change heading.display = heading.text at display
    rw [Heading.unanchored_text, Heading.ofLine_text] at text
    rw [Nat.zero_add] at index
    refine ⟨index, line, entry.2, ?_, ?_, level, display, text⟩
    · rw [number]
      exact uncovered
    · intro other
      rw [← HeadingLine.ofLine?_eq_some_iff, HeadingLine.ofLine?_of_spells spells, Option.some_inj,
        eq_comm]
  · intro text
    exact ⟨mem_keys_indexByText_iff, get?_indexByText contents.headings text⟩

/-- The fenced heading is not listed, nor are four marks or a mark without a blank; the second one
of a text has a wide blank after its marks. -/
theorem lists_second_of_text :
    let document := "# *A*\n```\n# B\n```\n##\u3000A\n#### C\n#D".toList
    let contents := ofDocument false document
    let heading : Heading := ⟨"a-1".toList, "A".toList, "A".toList, 2, 1, 5⟩
    contents.headings[1]? = some heading ∧
      (contents.headings.map fun heading => (heading.line : Int)) = [1, 5] ∧
      (∃ line spelled, IsUncovered (Document.lines document) heading.line line ∧
        (∀ other, HeadingLine.Spells line other ↔ other = spelled) ∧
        heading.level = spelled.level ∧ heading.display = heading.text ∧
        heading.text = PlainText.ofMarkup spelled.rest) ∧
      contents.byText.get? "A".toList = some "a-1".toList := by
  intro document contents heading
  obtain ⟨-, each, -, byText⟩ := lists_headingLines {} document
  have second : contents.headings[1]? = some heading := by decide +kernel
  have numbers : (contents.headings.map fun heading => (heading.line : Int)) = [1, 5] := by
    decide +kernel
  obtain ⟨-, stands⟩ := each 1 heading second
  refine ⟨second, numbers, stands, ?_⟩
  exact (byText "A".toList).2.trans (by decide +kernel)

end Contents
end MarkdownReview
