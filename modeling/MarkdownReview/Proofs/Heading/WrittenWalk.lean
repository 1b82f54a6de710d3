import MarkdownReview.Proofs.Heading.Contents
import MarkdownReview.Proofs.Heading.Walk
/-!
A walk by the texts of headings as they are written, with their markup. A text that some heading
reads exactly is looked up as it is, so markup that reads like the text of another heading claims
the anchor of that one. Where there is no such markup, every heading gets its own.
-/

namespace MarkdownReview

namespace Contents

def written (document : Text) : List Text :=
  (HeadingLine.ofDocument (Document.lines document)).map (·.2.rest)

theorem texts_ofDocument (unicode : Bool) (document : Text) :
    (ofDocument unicode document).headings.map (·.text) =
      (written document).map PlainText.ofMarkup := by
  rw [ofDocument, ofLines, texts_headingsFrom, written, List.map_map, Function.comp_def]

end Contents

namespace Walk

/-- A text that a heading reads exactly, and that is not what is left of itself without markup. -/
def IsMistaken (headings : List Heading) (text : Text) : Prop :=
  (∃ heading ∈ headings, heading.text = text) ∧ PlainText.ofMarkup text ≠ text

instance (headings : List Heading) (text : Text) : Decidable (IsMistaken headings text) :=
  inferInstanceAs (Decidable (_ ∧ _))

variable {headings : List Heading} {text wanted : Text}

theorem key_of_isMistaken (mistaken : IsMistaken headings text) : key headings text = text := by
  obtain ⟨⟨heading, member, rfl⟩, -⟩ := mistaken
  exact key_text member

theorem key_of_not_isMistaken (clear : ¬IsMistaken headings text) :
    key headings text = PlainText.ofMarkup text := by
  by_cases carried : ∃ heading ∈ headings, heading.text = text
  · have plain : PlainText.ofMarkup text = text := by
      by_contra different
      exact clear ⟨carried, different⟩
    obtain ⟨heading, member, rfl⟩ := carried
    rw [plain, key_text member]
  · have unknown : headings.any (·.text == text) = false := by
      rw [List.any_eq_false]
      intro heading member same
      exact carried ⟨heading, member, beq_iff_eq.mp same⟩
    rw [key, unknown]
    rfl

theorem key_eq_ofMarkup_iff :
    key headings text = PlainText.ofMarkup text ↔ ¬IsMistaken headings text := by
  refine ⟨?_, key_of_not_isMistaken⟩
  intro same mistaken
  rw [key_of_isMistaken mistaken] at same
  exact mistaken.2 same.symm

theorem exists_heading_of_key (own : ∃ heading ∈ headings, heading.text = PlainText.ofMarkup text) :
    ∃ heading ∈ headings, heading.text = key headings text := by
  by_cases mistaken : IsMistaken headings text
  · rw [key_of_isMistaken mistaken]
    exact mistaken.1
  · rw [key_of_not_isMistaken mistaken]
    exact own

theorem exists_heading_of_claim (before : List Call)
    (carried : ∃ heading ∈ headings, heading.text = key headings text) :
    ∃ heading ∈ headings, heading.text = key headings text ∧
      ((after { headings } before).claim text).1 = some heading.anchor := by
  have nonempty : 0 < (anchorsFor headings (key headings text)).length := by
    rw [List.length_pos_iff, ne_eq, anchorsFor_eq_nil_iff]
    obtain ⟨heading, member, same⟩ := carried
    exact fun none => none heading member same
  have inside : min (claims headings (key headings text) before)
      ((anchorsFor headings (key headings text)).length - 1) <
        (anchorsFor headings (key headings text)).length := by
    omega
  have given := claim_after headings before text
  rw [List.getElem?_eq_getElem inside] at given
  obtain ⟨heading, carries, anchor⟩ := List.mem_map.mp (List.getElem_mem inside)
  obtain ⟨member, same⟩ := List.mem_filter.mp carries
  exact ⟨heading, member, beq_iff_eq.mp same, given.trans (congrArg some anchor.symm)⟩

/-- When no mistaken text involves a key, it is claimed once for each heading that was passed and
carries it. -/
theorem claims_of_undisturbed {before : List Text} {passed : List Heading}
    (texts : passed.map (·.text) = before.map PlainText.ofMarkup)
    (undisturbed : ∀ other ∈ before, IsMistaken headings other →
      other ≠ wanted ∧ PlainText.ofMarkup other ≠ wanted) :
    claims headings wanted (before.map .claim) = (anchorsFor passed wanted).length := by
  have asked : before.countP (fun other => key headings other == wanted) =
      before.countP fun other => PlainText.ofMarkup other == wanted := by
    apply List.countP_congr
    intro other member
    rw [beq_iff_eq, beq_iff_eq]
    by_cases mistaken : IsMistaken headings other
    · obtain ⟨notThis, notOwn⟩ := undisturbed other member mistaken
      rw [key_of_isMistaken mistaken]
      exact iff_of_false notThis notOwn
    · rw [key_of_not_isMistaken mistaken]
  calc
    claims headings wanted (before.map .claim) =
        before.countP fun other => PlainText.ofMarkup other == wanted := by
      rw [claims_map_claim, asked]
    _ = (passed.map (·.text)).countP (· == wanted) := by
      rw [texts, List.countP_map]
      rfl
    _ = (anchorsFor passed wanted).length := by
      rw [anchorsFor, List.length_map, List.countP_map, List.countP_eq_length_filter]
      rfl

section

variable {written : List Text} {i : Nat}

theorem text_at (texts : headings.map (·.text) = written.map PlainText.ofMarkup) (i : Nat) :
    (headings[i]?).map (·.text) = (written[i]?).map PlainText.ofMarkup := by
  rw [← List.getElem?_map, texts, List.getElem?_map]

theorem exists_heading_at (texts : headings.map (·.text) = written.map PlainText.ofMarkup)
    (stands : written[i]? = some text) :
    ∃ heading, headings[i]? = some heading ∧ heading.text = PlainText.ofMarkup text := by
  have same := text_at texts i
  rw [stands] at same
  exact Option.map_eq_some_iff.mp same

theorem exists_answer_at (texts : headings.map (·.text) = written.map PlainText.ofMarkup)
    (stands : written[i]? = some text) :
    ∃ heading ∈ headings, heading.text = key headings text ∧
      (answers { headings } (written.map .claim))[i]? = some (some heading.anchor) := by
  obtain ⟨own, isHeading, same⟩ := exists_heading_at texts stands
  have carried := exists_heading_of_key ⟨own, List.mem_of_getElem? isHeading, same⟩
  obtain ⟨heading, member, carries, answer⟩ :=
    exists_heading_of_claim ((written.take i).map .claim) carried
  refine ⟨heading, member, carries, ?_⟩
  rw [← answer]
  exact answers_map_claim_getElem? { headings } stands

theorem not_isMistaken_of_inOrder
    (texts : headings.map (·.text) = written.map PlainText.ofMarkup)
    (distinct : (headings.map (·.anchor)).Nodup) (stands : written[i]? = some text)
    (inOrder : answers { headings } (written.map .claim) =
      headings.map fun heading => some heading.anchor) :
    ¬IsMistaken headings text := by
  obtain ⟨own, isHeading, plain⟩ := exists_heading_at texts stands
  obtain ⟨heading, member, carries, answer⟩ := exists_answer_at texts stands
  have expected := congrArg (·[i]?) inOrder
  simp only [List.getElem?_map, isHeading, Option.map_some] at expected
  have anchor : heading.anchor = own.anchor :=
    Option.some.inj (Option.some.inj (answer.symm.trans expected))
  have same : heading = own :=
    List.inj_on_of_nodup_map distinct member (List.mem_of_getElem? isHeading) anchor
  rw [← key_eq_ofMarkup_iff, ← carries, same, plain]

theorem answer_of_undisturbed (texts : headings.map (·.text) = written.map PlainText.ofMarkup)
    {heading : Heading} (stands : headings[i]? = some heading)
    (undisturbed : ∀ text ∈ written.take (i + 1), IsMistaken headings text →
      text ≠ heading.text ∧ PlainText.ofMarkup text ≠ heading.text) :
    (answers { headings } (written.map .claim))[i]? = some (some heading.anchor) := by
  have same := text_at texts i
  rw [stands] at same
  obtain ⟨text, isText, own⟩ := Option.map_eq_some_iff.mp same.symm
  obtain ⟨inside, isHeading⟩ := List.getElem?_eq_some_iff.mp stands
  have split : headings = headings.take i ++ heading :: headings.drop (i + 1) := by
    rw [← isHeading, List.getElem_cons_drop, List.take_append_drop]
  have passed : (headings.take i).map (·.text) = (written.take i).map PlainText.ofMarkup := by
    rw [List.map_take, List.map_take, texts]
  have upTo : written.take (i + 1) = written.take i ++ [text] := by
    rw [List.take_add_one, isText]
    rfl
  have clear : ¬IsMistaken headings text := by
    intro mistaken
    have member : text ∈ written.take (i + 1) := by
      rw [upTo]
      exact List.mem_append_right _ (List.mem_singleton_self text)
    exact (undisturbed text member mistaken).2 own
  have turn : claims headings heading.text ((written.take i).map .claim) =
      (anchorsFor (headings.take i) heading.text).length := by
    apply claims_of_undisturbed passed
    intro other member
    exact undisturbed other (upTo ▸ List.mem_append_left _ member)
  rw [answers_map_claim_getElem? { headings } isText, claim_in_turn split ?_ turn]
  rw [key_of_not_isMistaken clear, own]

end

/-- A renderer that walks down a document and claims every heading by its written text always gets
the anchor of some heading. It gets all the anchors in order exactly if no written text is mistaken
for the text of another heading; and a heading whose text no mistaken one up to it involves gets its
own in any case. -/
theorem answers_written_iff (settings : Settings) (document : Text) :
    let headings := (Contents.ofDocument settings.unicodeAnchors document).headings
    let written := Contents.written document
    let answers := answers { headings } (written.map .claim)
    (answers = headings.map (fun heading => some heading.anchor) ↔
        ∀ text ∈ written, ¬IsMistaken headings text) ∧
      (∀ (i : Nat) (heading : Heading), headings[i]? = some heading →
        (∀ text ∈ written.take (i + 1), IsMistaken headings text →
          text ≠ heading.text ∧ PlainText.ofMarkup text ≠ heading.text) →
        answers[i]? = some (some heading.anchor)) ∧
      ∀ answer ∈ answers, ∃ heading ∈ headings, answer = some heading.anchor := by
  intro headings written answers
  have texts : headings.map (·.text) = written.map PlainText.ofMarkup :=
    Contents.texts_ofDocument settings.unicodeAnchors document
  have distinct : (headings.map (·.anchor)).Nodup :=
    Contents.nodup_anchors settings.unicodeAnchors document
  have lengths := congrArg List.length texts
  rw [List.length_map, List.length_map] at lengths
  have length : answers.length = written.length := by
    rw [length_answers, List.length_map]
  refine ⟨⟨?_, ?_⟩, fun i heading stands => answer_of_undisturbed texts stands, ?_⟩
  · intro inOrder text member
    obtain ⟨i, stands⟩ := List.mem_iff_getElem?.mp member
    exact not_isMistaken_of_inOrder texts distinct stands inOrder
  · intro clear
    apply List.ext_getElem?
    intro i
    rw [List.getElem?_map]
    cases stands : headings[i]? with
    | none =>
      have past := List.getElem?_eq_none_iff.mp stands
      exact List.getElem?_eq_none (by omega)
    | some heading =>
      apply answer_of_undisturbed texts stands
      intro text member mistaken
      exact absurd mistaken (clear text (List.mem_of_mem_take member))
  · intro answer member
    obtain ⟨i, isAnswer⟩ := List.mem_iff_getElem?.mp member
    obtain ⟨inside, -⟩ := List.getElem?_eq_some_iff.mp isAnswer
    have stands : written[i]? = some written[i] := List.getElem?_eq_getElem (length ▸ inside)
    obtain ⟨heading, isMember, -, given⟩ := exists_answer_at texts stands
    exact ⟨heading, isMember, Option.some.inj (isAnswer.symm.trans given)⟩

/-- A heading with markup and one of the same text without it get their own anchors. In the other
document the second heading is mistaken for the first, and the third gets its own all the same. -/
theorem answers_written_undisturbed :
    let clean := "# **A**\n# A".toList
    let mixed := "# `# A`\n# # A\n# B".toList
    let headings := (Contents.ofDocument false mixed).headings
    (∀ text ∈ Contents.written clean,
        ¬IsMistaken (Contents.ofDocument false clean).headings text) ∧
      answers { headings := (Contents.ofDocument false clean).headings }
          ((Contents.written clean).map .claim) =
        [some "a".toList, some "a-1".toList] ∧
      (∀ text ∈ (Contents.written mixed).take 3, IsMistaken headings text →
        text ≠ "B".toList ∧ PlainText.ofMarkup text ≠ "B".toList) ∧
      (answers { headings } ((Contents.written mixed).map .claim))[2]? =
        some (some "b".toList) := by
  intro clean mixed headings
  obtain ⟨inOrder, -, -⟩ := answers_written_iff {} clean
  obtain ⟨-, own, -⟩ := answers_written_iff {} mixed
  have noneMistaken : ∀ text ∈ Contents.written clean,
      ¬IsMistaken (Contents.ofDocument false clean).headings text := by decide +kernel
  have undisturbed : ∀ text ∈ (Contents.written mixed).take 3, IsMistaken headings text →
      text ≠ "B".toList ∧ PlainText.ofMarkup text ≠ "B".toList := by decide +kernel
  have third : headings[2]? = some ⟨"b".toList, "B".toList, "B".toList, 1, 2, 3⟩ := by decide +kernel
  exact ⟨noneMistaken, (inOrder.mpr noneMistaken).trans (by decide +kernel), undisturbed,
    own 2 _ third undisturbed⟩

/-- What is written in the second heading is what the first one reads without its markup, so the
second is given the anchor of the first. -/
theorem answers_written_mistaken :
    let document := "## `# Install`\n## # Install".toList
    let headings := (Contents.ofDocument ({} : Settings).unicodeAnchors document).headings
    let answers := answers { headings } ((Contents.written document).map .claim)
    answers = [some "-install".toList, some "-install".toList] ∧
      headings.map (·.anchor) = ["-install".toList, "install".toList] ∧
      answers ≠ headings.map fun heading => some heading.anchor := by
  decide +kernel

end Walk
end MarkdownReview
