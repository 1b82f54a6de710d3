import Mathlib.Data.List.Find
import MarkdownReview.Proofs.Code.Pattern
import MarkdownReview.Proofs.Code.Standing
import MarkdownReview.Proofs.Document.CodeSpan
/-!
Statement forms and inline code. No form takes a tick, whichever choices its pieces make, while a
span begins and ends with one; so a form stands apart from a span or between its two ends. To pass
over the places that meet inline code is therefore to pass over those that it encloses.
-/

namespace MarkdownReview

namespace Document

/-- A place starts past the start of a span and stops short of its end. -/
def Span.encloses (span place : Span) : Bool :=
  span.start < place.start && place.stop < span.stop

theorem Span.encloses_iff {span place : Span} :
    span.encloses place = true ↔ span.start < place.start ∧ place.stop < span.stop := by
  rw [Span.encloses, Bool.and_eq_true, decide_eq_true_eq, decide_eq_true_eq]

end Document

namespace Code

open Document (Span codeSpans tick)

theorem Piece.not_mem_of_takes {piece : Piece} {before : Option Char} {part rest : Text} {c : Char}
    (avoids : piece.avoids c = true) (takes : piece.Takes before part rest) : c ∉ part := by
  cases piece with
  | edge => simp [takes.1]
  | words alternatives =>
    have missing : ∀ word ∈ alternatives, c ∉ word := by simpa [Piece.avoids] using avoids
    exact missing part takes
  | run least belongs =>
    have outside : belongs c = false := by simpa [Piece.avoids] using avoids
    intro member
    rw [takes.2 c member] at outside
    cases outside
  | one choices =>
    have missing : c ∉ choices := by simpa [Piece.avoids] using avoids
    obtain ⟨d, chosen, rfl⟩ := takes
    intro member
    rw [List.mem_singleton.mp member] at missing
    exact missing chosen

theorem not_mem_of_spells {pieces : List Piece} {before : Option Char} {part rest : Text} {c : Char}
    (avoid : ∀ piece ∈ pieces, piece.avoids c = true) (spells : Spells pieces before part rest) :
    c ∉ part := by
  induction pieces generalizing before part with
  | nil =>
    have empty : part = [] := spells
    simp [empty]
  | cons piece pieces ih =>
    obtain ⟨first, later, rfl, takes, spells⟩ := spells
    obtain ⟨avoids, avoid⟩ := List.forall_mem_cons.mp avoid
    rw [List.mem_append, not_or]
    exact ⟨Piece.not_mem_of_takes avoids takes, ih avoid spells⟩

namespace Form

variable {form : Form} {text : Text} {place : Span}

/-- The pieces of a form can take what stands at a place of a text, whatever else they could take
there. -/
def ReadsAt (form : Form) (text : Text) (place : Span) : Prop :=
  ∃ passed part rest, passed ++ (part ++ rest) = text ∧ passed.length = place.start ∧
    passed.length + part.length = place.stop ∧ Spells form.pieces passed.getLast? part rest

theorem readsAt_of_mem_places (known : form ∈ forms) (member : place ∈ form.places text) :
    form.ReadsAt text place := by
  obtain ⟨passed, ahead, rfl, starts, standing, ordered⟩ := standing_of_mem_placesFrom member
  rw [Nat.zero_add] at starts
  rw [Option.or_none, width?, ← head?_readings (forms_decisive form known)] at standing
  obtain ⟨part, rest, rfl, width, spells⟩ := mem_readings_iff.mp (List.mem_of_head? standing)
  exact ⟨passed, part, rest, rfl, starts.symm, by omega, spells⟩

namespace ReadsAt

theorem start_le_stop (reads : form.ReadsAt text place) : place.start ≤ place.stop := by
  obtain ⟨passed, part, rest, -, starts, stops, -⟩ := reads
  omega

theorem ne_tick (reads : form.ReadsAt text place) (known : form ∈ forms) {i : Nat}
    (least : place.start ≤ i) (most : i < place.stop) : text[i]? ≠ some tick := by
  obtain ⟨passed, part, rest, rfl, starts, stops, spells⟩ := reads
  have silent : tick ∉ part := not_mem_of_spells (forms_avoid_tick form known) spells
  rw [List.getElem?_append_right (by omega), List.getElem?_append_left (by omega)]
  intro isTick
  exact silent (List.mem_of_getElem? isTick)

/-- Were an end of the span inside the place, the tick there would be taken by the form. -/
theorem meets_eq_encloses (reads : form.ReadsAt text place) (known : form ∈ forms) {span : Span}
    (member : span ∈ codeSpans text) : place.meets span = span.encloses place := by
  obtain ⟨width, delimited⟩ := (Document.areCodeSpans_codeSpans text).delimited span member
  have ordered := reads.start_le_stop
  rw [Bool.eq_iff_iff, ← Bool.not_eq_false, Document.meets_eq_false_iff, Span.encloses_iff]
  constructor
  · intro overlap
    refine ⟨?_, ?_⟩
    · by_contra before
      exact reads.ne_tick known (by omega) (by omega) delimited.first_tick
    · by_contra past
      exact reads.ne_tick known (by omega) (by omega) delimited.last_tick
  · omega

end ReadsAt

def firstUnenclosed (form : Form) (spans : List Span) (line : Text) : Option Span :=
  (form.places line).find? fun place => !spans.any (·.encloses place)

theorem firstUnenclosed_eq_firstOutside (known : form ∈ forms) (line : Text) :
    form.firstUnenclosed (codeSpans line) line = form.firstOutside (codeSpans line) line := by
  apply List.find?_congr
  intro place member
  have reads := readsAt_of_mem_places known member
  congr 1
  rw [Bool.eq_iff_iff, List.any_eq_true, List.any_eq_true]
  refine exists_congr fun span => and_congr_right fun inside => ?_
  rw [reads.meets_eq_encloses known inside]

end Form

/-- The match on a line where each form passes over the places that inline code encloses. -/
def firstUnenclosedMatch? (line : Text) : Option Match :=
  let spans := codeSpans line
  let found := forms.filterMap fun form =>
    (form.firstUnenclosed spans line).map fun place => ⟨place, form.language⟩
  found.foldl earlier none

theorem firstUnenclosedMatch?_eq_firstMatch? (line : Text) :
    firstUnenclosedMatch? line = firstMatch? line := by
  have found : (forms.filterMap fun form =>
        (form.firstUnenclosed (codeSpans line) line).map fun place =>
          (⟨place, form.language⟩ : Match)) =
      forms.filterMap fun form =>
        (form.firstOutside (codeSpans line) line).map fun place => ⟨place, form.language⟩ := by
    apply List.filterMap_congr
    intro form known
    rw [Form.firstUnenclosed_eq_firstOutside known]
  exact congrArg (List.foldl earlier none) found

/-- Wherever a form can be read on a line, it either shares no character with an inline code span or
lies between the delimiters at the ends of the span, so it meets exactly the spans that enclose it.
This holds of all places that the search of a form goes through, and the match on a line is the one
that is found where only enclosed places are passed over. -/
theorem readsAt_apart_or_enclosed (line : Text) :
    (∀ form ∈ forms, ∀ place, form.ReadsAt line place → ∀ span ∈ codeSpans line,
      ((place.stop ≤ span.start ∨ span.stop ≤ place.start) ∨
        (span.start < place.start ∧ place.stop < span.stop)) ∧
      place.meets span = span.encloses place) ∧
    (∀ form ∈ forms, ∀ place ∈ form.places line, form.ReadsAt line place) ∧
    firstUnenclosedMatch? line = firstMatch? line := by
  refine ⟨?_, ?_, firstUnenclosedMatch?_eq_firstMatch? line⟩
  · intro form known place reads span member
    have same := reads.meets_eq_encloses known member
    refine ⟨?_, same⟩
    cases meets : place.meets span with
    | false => exact Or.inl (Document.meets_eq_false_iff.mp meets).symm
    | true =>
      rw [meets] at same
      exact Or.inr (Span.encloses_iff.mp same.symm)
  · intro form known place member
    exact Form.readsAt_of_mem_places known member

/-- An import in inline code ends right before the closing tick, and a definition stands past it. -/
theorem readsAt_apart_or_enclosed_import :
    let line := "`import a` def f(x)".toList
    ∃ imports ∈ forms, ∃ defines ∈ forms, imports.ReadsAt line ⟨1, 9⟩ ∧
      defines.ReadsAt line ⟨11, 17⟩ ∧ codeSpans line = [⟨0, 10⟩] ∧
      Span.meets ⟨1, 9⟩ ⟨0, 10⟩ = true ∧ Span.meets ⟨11, 17⟩ ⟨0, 10⟩ = false ∧
      firstUnenclosedMatch? line = some ⟨⟨11, 17⟩, .python⟩ := by
  intro line
  obtain ⟨apart, standing, same⟩ := readsAt_apart_or_enclosed line
  have importing : forms[1] ∈ forms := List.getElem_mem _
  have defining : forms[2] ∈ forms := List.getElem_mem _
  have first := standing _ importing ⟨1, 9⟩ (by decide +kernel)
  have second := standing _ defining ⟨11, 17⟩ (by decide +kernel)
  have spans : codeSpans line = [⟨0, 10⟩] := by decide +kernel
  have member : ⟨0, 10⟩ ∈ codeSpans line := by simp [spans]
  have found : firstMatch? line = some ⟨⟨11, 17⟩, .python⟩ := by decide +kernel
  refine ⟨_, importing, _, defining, first, second, spans, ?_, ?_, same.trans found⟩
  · exact (apart _ importing _ first _ member).2
  · exact (apart _ defining _ second _ member).2

end Code
end MarkdownReview
