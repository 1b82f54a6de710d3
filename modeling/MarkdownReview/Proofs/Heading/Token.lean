import MarkdownReview.Proofs.Heading.Replacement
/-!
Heading text that is written in tokens: phrases, plain or between a pair of marks, and links and
images with such a label. A reader sees the phrases, whatever stands next to each other.
-/

namespace MarkdownReview.PlainText

/-- Text of one line that holds no mark and has no blank at its ends. -/
structure Phrase where
  text : Text
  nonempty : text ≠ []
  plain : ∀ c ∈ ['\n', headingMark, '*', '_', Document.tick, '[', ']'], c ∉ text
  starts : ∀ c ∈ text.head?, Text.isBlank c = false
  ends : ∀ c ∈ text.getLast?, Text.isBlank c = false

inductive Mark
  | doubleStar
  | doubleLowLine
  | star
  | lowLine
  | tick
deriving DecidableEq, Repr

def Mark.text : Mark → Text
  | doubleStar => ['*', '*']
  | doubleLowLine => ['_', '_']
  | star => ['*']
  | lowLine => ['_']
  | tick => [Document.tick]

inductive Label
  | plain (phrase : Phrase)
  | marked (mark : Mark) (phrase : Phrase)

namespace Label

def phrase : Label → Phrase
  | plain phrase => phrase
  | marked _ phrase => phrase

def written : Label → Text
  | plain phrase => phrase.text
  | marked mark phrase => mark.text ++ phrase.text ++ mark.text

end Label

/-- The target of a link, which ends at the first closing parenthesis. -/
structure Address where
  text : Text
  within : ')' ∉ text

inductive Token
  | plain (label : Label)
  | link (label : Label) (address : Address)
  | image (label : Label) (address : Address)

namespace Token

def written : Token → Text
  | plain label => label.written
  | link label address => linked label.written address.text
  | image label address => '!' :: linked label.written address.text

def shown : Token → Label
  | plain label => label
  | link label _ => label
  | image label _ => label

def phrase (token : Token) : Text := token.shown.phrase.text

end Token

structure HasVisibleEnds (text : Text) : Prop where
  nonempty : text ≠ []
  unmarked : text.head? ≠ some headingMark
  starts : ∀ c ∈ text.head?, Text.isBlank c = false
  ends : ∀ c ∈ text.getLast?, Text.isBlank c = false

namespace HasVisibleEnds

variable {text first last : Text}

theorem trim_eq (visible : HasVisibleEnds text) : Text.trim text = text :=
  Text.trim_eq_self visible.starts visible.ends

theorem unmarked_eq (visible : HasVisibleEnds text) : PlainText.unmarked text = text := by
  have noMark : ∀ c ∈ text.head?, (c == headingMark) = false := by
    intro c isFirst
    rw [beq_eq_false_iff_ne]
    rintro rfl
    exact visible.unmarked isFirst
  rw [PlainText.unmarked, visible.trim_eq, Text.dropWhile_eq_self noMark, Text.trimStart,
    Text.dropWhile_eq_self visible.starts]

theorem enclosing (visible : HasVisibleEnds first) (between : Text)
    (visibleLast : HasVisibleEnds last) : HasVisibleEnds (first ++ between ++ last) := by
  obtain ⟨c, rest, rfl⟩ := List.exists_cons_of_ne_nil visible.nonempty
  have sameLast : (c :: rest ++ between ++ last).getLast? = last.getLast? := by
    rw [List.getLast?_append_of_ne_nil _ visibleLast.nonempty]
  refine ⟨by simp, visible.unmarked, visible.starts, ?_⟩
  rw [sameLast]
  exact visibleLast.ends

theorem single {c : Char} (notMark : c ≠ headingMark) (notBlank : Text.isBlank c = false) :
    HasVisibleEnds [c] := by
  refine ⟨List.cons_ne_nil _ _, by simpa using notMark, ?_, ?_⟩
  · rintro _ ⟨⟩
    exact notBlank
  · rintro _ ⟨⟩
    exact notBlank

theorem spaced {segments : List Text} (nonempty : segments ≠ [])
    (visible : ∀ segment ∈ segments, HasVisibleEnds segment) :
    HasVisibleEnds (PlainText.spaced segments) := by
  induction segments with
  | nil => exact absurd rfl nonempty
  | cons first segments ih =>
    have visibleFirst := visible first (List.mem_cons_self ..)
    cases segments with
    | nil => simpa only [PlainText.spaced, List.intercalate_singleton] using visibleFirst
    | cons second segments =>
      have visibleLater := ih (List.cons_ne_nil _ _)
        fun segment member => visible segment (List.mem_cons_of_mem _ member)
      rw [spaced_cons_cons, ← List.singleton_append, ← List.append_assoc]
      exact visibleFirst.enclosing [' '] visibleLater

end HasVisibleEnds

section Ends

theorem Phrase.visible (phrase : Phrase) : HasVisibleEnds phrase.text := by
  refine ⟨phrase.nonempty, ?_, phrase.starts, phrase.ends⟩
  intro marked
  exact phrase.plain headingMark (by decide) (List.mem_of_head? marked)

theorem Mark.visible (mark : Mark) : HasVisibleEnds mark.text := by
  have star : HasVisibleEnds ['*'] := .single (by decide) (by decide)
  have lowLine : HasVisibleEnds ['_'] := .single (by decide) (by decide)
  cases mark with
  | doubleStar => exact star.enclosing [] star
  | doubleLowLine => exact lowLine.enclosing [] lowLine
  | star => exact star
  | lowLine => exact lowLine
  | tick => exact .single (by decide) (by decide)

theorem Label.visible (label : Label) : HasVisibleEnds label.written := by
  cases label with
  | plain phrase => exact phrase.visible
  | marked mark phrase => exact mark.visible.enclosing phrase.text mark.visible

theorem visible_linked (label address : Text) : HasVisibleEnds (linked label address) := by
  have bracket : HasVisibleEnds ['['] := .single (by decide) (by decide)
  have parenthesis : HasVisibleEnds [')'] := .single (by decide) (by decide)
  have inner := bracket.enclosing (label ++ [']', '('] ++ address) parenthesis
  simpa only [linked, List.append_assoc] using inner

theorem Token.visible (token : Token) : HasVisibleEnds token.written := by
  cases token with
  | plain label => exact label.visible
  | link label address => exact visible_linked label.written address.text
  | image label address =>
    have point : HasVisibleEnds ['!'] := .single (by decide) (by decide)
    exact point.enclosing [] (visible_linked label.written address.text)

end Ends

section Links

theorem Label.not_mem_written (label : Label) {c : Char} (bracket : c ∈ ['[', ']']) :
    c ∉ label.written := by
  have notInMark : ∀ mark : Mark, c ∉ mark.text := by
    intro mark
    rcases List.mem_pair.mp bracket with rfl | rfl <;> cases mark <;> decide
  have notInPhrase : ∀ phrase : Phrase, c ∉ phrase.text := by
    intro phrase
    refine phrase.plain c ?_
    rcases List.mem_pair.mp bracket with rfl | rfl <;> decide
  cases label with
  | plain phrase => exact notInPhrase phrase
  | marked mark phrase =>
    rw [Label.written, List.mem_append, List.mem_append]
    rintro ((inMark | inPhrase) | inMark)
    · exact notInMark mark inMark
    · exact notInPhrase phrase inPhrase
    · exact notInMark mark inMark

theorem Token.carries_link (token : Token) :
    Carries PlainText.link token.written token.shown.written := by
  cases token with
  | plain label => exact carries_unlinked (label.not_mem_written (by decide))
  | link label address => exact carries_linked (label.not_mem_written (by decide)) address.within
  | image label address => exact carries_image (label.not_mem_written (by decide)) address.within

end Links

section Wrappers

variable {mark : Mark} {marks : List Mark} {labels : List Label} {wrapper : Wrapper}

/-- A label as it stands while these marks are still to be taken away. -/
def Label.writtenWith (marks : List Mark) : Label → Text
  | plain phrase => phrase.text
  | marked mark phrase => if mark ∈ marks then written (marked mark phrase) else phrase.text

theorem Mark.isMarked (same : wrapper.mark = mark.text) : wrapper.IsMarked := by
  constructor
  · rw [same]
    exact mark.visible.nonempty
  · rw [same]
    cases mark <;> decide

theorem Phrase.apart (phrase : Phrase) (same : wrapper.mark = mark.text) :
    ∀ c ∈ wrapper.mark, c ∉ phrase.text := by
  have known : ∀ c ∈ mark.text, c ∈ ['\n', headingMark, '*', '_', Document.tick, '[', ']'] := by
    cases mark <;> simp [Mark.text]
  rw [same]
  exact fun c member => phrase.plain c (known c member)

theorem Phrase.not_infix (phrase : Phrase) (same : wrapper.mark = mark.text) :
    ¬wrapper.mark <:+: phrase.text := by
  intro occurs
  obtain ⟨c, rest, first⟩ := List.exists_cons_of_ne_nil (Mark.isMarked same).nonempty
  have member : c ∈ wrapper.mark := by
    rw [first]
    exact List.mem_cons_self ..
  exact phrase.apart same c member (occurs.subset member)

theorem Phrase.not_infix_marked (phrase : Phrase) {own : Mark} (same : wrapper.mark = mark.text)
    (apart : ¬mark.text <:+: own.text) :
    ¬wrapper.mark <:+: own.text ++ phrase.text ++ own.text := by
  rw [← same] at apart
  rw [List.append_assoc]
  intro occurs
  have nonempty := (Mark.isMarked same).nonempty
  rcases Text.infix_append_append nonempty phrase.nonempty (phrase.apart same) occurs with
    inFirst | inLast
  · exact apart inFirst
  · exact apart inLast

theorem Label.carries_rule (label : Label) (same : wrapper.mark = mark.text)
    (apart : ∀ other ∈ marks, ¬mark.text <:+: other.text) :
    Carries wrapper.rule (label.writtenWith (mark :: marks)) (label.writtenWith marks) := by
  have isMarked := Mark.isMarked same
  cases label with
  | plain phrase => exact Wrapper.carries_unwrapped isMarked (phrase.not_infix same)
  | marked own phrase =>
    by_cases later : own ∈ marks
    · rw [writtenWith, writtenWith, if_pos (List.mem_cons_of_mem _ later), if_pos later, written]
      exact Wrapper.carries_unwrapped isMarked (phrase.not_infix_marked same (apart own later))
    · rw [writtenWith, writtenWith, if_neg later]
      by_cases here : own = mark
      · rw [if_pos (List.mem_cons.mpr (Or.inl here)), written, here, ← same]
        exact Wrapper.carries_wrapped isMarked phrase.nonempty (phrase.plain '\n' (by decide))
          (phrase.apart same)
      · -- An earlier wrapper has taken the mark of this label away.
        rw [if_neg (List.not_mem_cons_of_ne_of_not_mem here later)]
        exact Wrapper.carries_unwrapped isMarked (phrase.not_infix same)

theorem foldl_replace_spaced {kinds : List Wrapper}
    (same : kinds.map (·.mark) = marks.map Mark.text)
    (distinct : marks.Pairwise fun earlier later => ¬earlier.text <:+: later.text) :
    kinds.foldl (fun text wrapper => replace wrapper.rule text)
        (spaced (labels.map (Label.writtenWith marks))) =
      spaced (labels.map (Label.writtenWith [])) := by
  induction kinds generalizing marks with
  | nil =>
    rw [List.map_nil, eq_comm, List.map_eq_nil_iff] at same
    rw [same]
    rfl
  | cons wrapper kinds ih =>
    obtain ⟨mark, later, rfl, first, rest⟩ := List.map_eq_cons_iff.mp same.symm
    obtain ⟨apart, distinctLater⟩ := List.pairwise_cons.mp distinct
    have step : replace wrapper.rule (spaced (labels.map (Label.writtenWith (mark :: later)))) =
        spaced (labels.map (Label.writtenWith later)) :=
      replace_spaced (Wrapper.passesSpace_rule (Mark.isMarked first.symm)) fun label _ =>
        label.carries_rule first.symm apart
    rw [List.foldl_cons, step]
    exact ih rest.symm distinctLater

theorem unwrap_spaced (labels : List Label) :
    unwrap (spaced (labels.map Label.written)) =
      spaced (labels.map fun label => label.phrase.text) := by
  have all : Label.writtenWith [.doubleStar, .doubleLowLine, .star, .lowLine, .tick] =
      Label.written := by
    funext label
    cases label with
    | plain phrase => rfl
    | marked mark phrase =>
      rw [Label.writtenWith, if_pos]
      cases mark <;> decide
  have none : Label.writtenWith [] = fun label => label.phrase.text := by
    funext label
    cases label <;> rfl
  rw [← all, ← none]
  exact foldl_replace_spaced rfl (by decide)

end Wrappers

/-- Of tokens with single spaces between them a reader sees the phrases with single spaces between
them: no mark pairs with one of another token, and no mark in a target counts. -/
theorem ofMarkup_spaced (tokens : List Token) :
    ofMarkup (spaced (tokens.map Token.written)) = spaced (tokens.map Token.phrase) := by
  by_cases empty : tokens = []
  · rw [empty]
    rfl
  have visible : HasVisibleEnds (spaced (tokens.map Token.written)) := by
    refine HasVisibleEnds.spaced (by simpa using empty) ?_
    intro segment member
    obtain ⟨token, -, rfl⟩ := List.mem_map.mp member
    exact token.visible
  have visiblePhrases : HasVisibleEnds (spaced (tokens.map Token.phrase)) := by
    refine HasVisibleEnds.spaced (by simpa using empty) ?_
    intro segment member
    obtain ⟨token, -, rfl⟩ := List.mem_map.mp member
    exact token.shown.phrase.visible
  have links : replace link (spaced (tokens.map Token.written)) =
      spaced ((tokens.map Token.shown).map Label.written) := by
    rw [List.map_map]
    exact replace_spaced passesSpace_link fun token _ => token.carries_link
  have unwrapped : unwrap (spaced ((tokens.map Token.shown).map Label.written)) =
      spaced (tokens.map Token.phrase) := by
    rw [unwrap_spaced, List.map_map]
    rfl
  rw [ofMarkup, visible.unmarked_eq, links, unwrapped]
  exact visiblePhrases.trim_eq

/-- A pair of marks next to a single one, and marks of every kind in a target. -/
theorem ofMarkup_spaced_marked :
    let words : Phrase :=
      ⟨"a b".toList, by decide, by simp [headingMark, Document.tick], by rintro _ ⟨⟩; decide,
        by rintro _ ⟨⟩; decide⟩
    let word : Phrase :=
      ⟨"c".toList, by decide, by simp [headingMark, Document.tick], by rintro _ ⟨⟩; decide,
        by rintro _ ⟨⟩; decide⟩
    let address : Address := ⟨"x*_`y".toList, by decide⟩
    let tokens : List Token :=
      [.plain (.marked .doubleStar words), .plain (.marked .star word),
        .image (.marked .doubleLowLine word) address, .link (.plain words) address,
        .plain (.marked .tick word)]
    let markup := "**a b** *c* ![__c__](x*_`y) [a b](x*_`y) `c`".toList
    spaced (tokens.map Token.written) = markup ∧
      spaced (tokens.map Token.phrase) = "a b c c a b c".toList ∧
      ofMarkup markup = "a b c c a b c".toList := by
  intro words word address tokens markup
  have written : spaced (tokens.map Token.written) = markup := by decide
  have phrases : spaced (tokens.map Token.phrase) = "a b c c a b c".toList := by decide
  have read := ofMarkup_spaced tokens
  rw [written, phrases] at read
  exact ⟨written, phrases, read⟩

end MarkdownReview.PlainText
