import MarkdownReview.Proofs.Code.FirstMatch
/-!
What stands between the delimiters of a code span does not count: where other text without a tick
stands there, the text has the same spans.
-/

namespace MarkdownReview.Document

variable {text other inner : Text} {span : Span} {width start i : Nat}

namespace Span

def delimiterWidth (text : Text) (span : Span) : Nat :=
  ((text.drop span.start).takeWhile (· == tick)).length

/-- The text with other content between the delimiters of a span. -/
def reworded (text : Text) (span : Span) (inner : Text) : Text :=
  text.take (span.start + span.delimiterWidth text) ++ inner ++
    text.drop (span.stop - span.delimiterWidth text)

end Span

theorem delimited_of_mem_codeSpans (member : span ∈ codeSpans text) :
    span.Delimited text (span.delimiterWidth text) := by
  obtain ⟨width, delimited⟩ := (areCodeSpans_codeSpans text).delimited span member
  have counted : span.delimiterWidth text = width := by
    rw [Span.delimiterWidth, drop_eq_cons_of_getElem? delimited.first_tick, List.takeWhile_cons,
      if_pos (beq_self_eq_true tick), List.length_cons]
    exact delimited.opens.toIsRun.counted
  rw [counted]
  exact delimited

/-- Two texts that differ between the delimiters of a span only, and the other one has no tick
there. -/
structure IsRewording (text other : Text) (span : Span) (width : Nat) : Prop where
  delimited : span.Delimited text width
  length : other.length = text.length
  outside : ∀ i, i < span.start + width ∨ span.stop - width ≤ i → other[i]? = text[i]?
  silent : ∀ i, span.start + width ≤ i → i < span.stop - width → other[i]? ≠ some tick

theorem isRewording_reworded (member : span ∈ codeSpans text) (silent : tick ∉ inner)
    (fits : inner.length = span.stop - span.start - 2 * span.delimiterWidth text) :
    IsRewording text (span.reworded text inner) span (span.delimiterWidth text) := by
  have delimited := delimited_of_mem_codeSpans member
  have apart := delimited.apart
  have within := delimited.stop_le_length
  unfold Span.reworded
  generalize span.delimiterWidth text = width at delimited apart fits ⊢
  have opening : (text.take (span.start + width)).length = span.start + width := by
    rw [List.length_take]
    omega
  have beforeClosing : (text.take (span.start + width) ++ inner).length = span.stop - width := by
    rw [List.length_append, opening]
    omega
  refine ⟨delimited, ?_, ?_, ?_⟩
  · rw [List.length_append, beforeClosing, List.length_drop]
    omega
  · rintro i (before | past)
    · rw [List.append_assoc, List.getElem?_append_left (by omega), List.getElem?_take_of_lt before]
    · rw [List.getElem?_append_right (by omega), beforeClosing, List.getElem?_drop,
        Nat.add_sub_cancel' past]
  · intro i least most isTick
    rw [List.getElem?_append_left (by omega), List.getElem?_append_right (by omega)] at isTick
    exact silent (List.mem_of_getElem? isTick)

namespace IsRewording

theorem isRun_iff (rewording : IsRewording text other span width) {runWidth : Nat} :
    IsRun other start runWidth ↔
      IsRun text start runWidth ∧
        (start + runWidth ≤ span.start + width ∨ span.stop - width ≤ start) := by
  obtain ⟨delimited, -, outside, silent⟩ := rewording
  have apart := delimited.apart
  constructor
  · intro run
    have positive := run.positive
    have standing : ∀ i < runWidth,
        start + i < span.start + width ∨ span.stop - width ≤ start + i := by
      intro i within
      by_contra inside
      exact silent (start + i) (by omega) (by omega) (run.ticks i within)
    -- A run that begins before the content and goes on after it would have a tick in the content.
    have apartFrom : start + runWidth ≤ span.start + width ∨ span.stop - width ≤ start := by
      by_contra across
      have first := standing 0 positive
      have ahead := standing (span.start + width - start)
      omega
    refine ⟨⟨positive, ?_, ?_⟩, apartFrom⟩
    · intro i within
      rw [← outside _ (standing i within)]
      exact run.ticks i within
    · by_cases atContent : start + runWidth = span.start + width
      · rw [atContent]
        exact delimited.opens.ends
      · rw [← outside _ (by omega)]
        exact run.ends
  · rintro ⟨⟨positive, ticks, ends⟩, apartFrom⟩
    refine ⟨positive, ?_, ?_⟩
    · intro i within
      rw [outside _ (by omega)]
      exact ticks i within
    · by_cases atContent : start + runWidth = span.start + width
      · exact silent _ (by omega) (by omega)
      · rw [outside _ (by omega)]
        exact ends

theorem isMaximalRun_iff (rewording : IsRewording text other span width) {runWidth : Nat} :
    IsMaximalRun other start runWidth ↔ IsMaximalRun text start runWidth ∧
      (start + runWidth ≤ span.start + width ∨ span.stop - width ≤ start) := by
  have apart := rewording.delimited.apart
  constructor
  · rintro ⟨run, begins⟩
    obtain ⟨runText, apartFrom⟩ := rewording.isRun_iff.mp run
    have positive := run.positive
    refine ⟨⟨runText, ?_⟩, apartFrom⟩
    intro i before
    by_cases afterContent : start = span.stop - width
    · exact rewording.delimited.closes.begins i (by omega)
    · rw [← rewording.outside i (by omega)]
      exact begins i before
  · rintro ⟨⟨run, begins⟩, apartFrom⟩
    have positive := run.positive
    refine ⟨rewording.isRun_iff.mpr ⟨run, apartFrom⟩, ?_⟩
    intro i before
    by_cases afterContent : start = span.stop - width
    · exact rewording.silent i (by omega) (by omega)
    · rw [rewording.outside i (by omega)]
      exact begins i before

theorem take_eq (rewording : IsRewording text other span width) (least : i ≤ span.start + width) :
    other.take i = text.take i := by
  apply List.ext_getElem?
  intro offset
  by_cases within : offset < i
  · rw [List.getElem?_take_of_lt within, List.getElem?_take_of_lt within]
    exact rewording.outside offset (by omega)
  · rw [List.getElem?_take_eq_none (by omega), List.getElem?_take_eq_none (by omega)]

theorem drop_eq (rewording : IsRewording text other span width) (most : span.stop - width ≤ i) :
    other.drop i = text.drop i := by
  apply List.ext_getElem?
  intro offset
  rw [List.getElem?_drop, List.getElem?_drop]
  exact rewording.outside (i + offset) (by omega)

theorem getLast?_take_eq (rewording : IsRewording text other span width) (past : span.stop ≤ i) :
    (other.take i).getLast? = (text.take i).getLast? := by
  have apart := rewording.delimited.apart
  have positive := rewording.delimited.closes.positive
  have within := rewording.delimited.stop_le_length
  have final := rewording.outside (text.length - 1) (by omega)
  rw [List.getLast?_take, List.getLast?_take, if_neg (by omega), if_neg (by omega),
    rewording.outside (i - 1) (by omega), List.getLast?_eq_getElem?, List.getLast?_eq_getElem?,
    rewording.length, final]

theorem endsInEscape_eq (rewording : IsRewording text other span width)
    (apartFrom : i ≤ span.start + width ∨ span.stop - width < i) :
    endsInEscape (other.take i) = endsInEscape (text.take i) := by
  rcases apartFrom with before | past
  · rw [rewording.take_eq before]
  · induction i, past using Nat.le_induction with
    | base =>
      have isTick := rewording.delimited.closes.first_tick
      have isTickOther := isTick
      rw [← rewording.outside _ (Or.inr (Nat.le_refl _))] at isTickOther
      exact (endsInEscape_after_tick isTickOther).trans (endsInEscape_after_tick isTick).symm
    | succ i past ih =>
      have same := rewording.outside i (by omega)
      cases here : text[i]? with
      | none =>
        rw [here] at same
        have atEnd := List.getElem?_eq_none_iff.mp here
        have atEndOther := List.getElem?_eq_none_iff.mp same
        rw [List.take_of_length_le (by omega), List.take_of_length_le (by omega)]
        rw [List.take_of_length_le (by omega), List.take_of_length_le (by omega)] at ih
        exact ih
      | some c =>
        rw [here] at same
        rw [endsInEscape_take_succ here, endsInEscape_take_succ same, ih]

theorem escaped?_eq (rewording : IsRewording text other span width)
    (apartFrom : i ≤ span.start + width ∨ span.stop - width < i) :
    escaped? other i = escaped? text i := by
  rw [escaped?, escaped?, rewording.length, Int.toNat_natCast,
    rewording.endsInEscape_eq apartFrom]

theorem isOpening (rewording : IsRewording text other span width) {runWidth : Nat}
    (opens : IsOpening text start runWidth)
    (apartFrom : start + runWidth ≤ span.start + width ∨ span.stop ≤ start) :
    IsOpening other start runWidth := by
  have apart := rewording.delimited.apart
  have positive := opens.positive
  have widthPositive := rewording.delimited.opens.positive
  have notAtStop : start ≠ span.stop := by
    rintro rfl
    exact rewording.delimited.stop_ne_tick opens.first_tick
  refine ⟨rewording.isRun_iff.mpr ⟨opens.toIsRun, by omega⟩, ?_, ?_⟩
  · rw [rewording.escaped?_eq (by omega)]
    exact opens.unescaped
  · intro i before isTick
    rw [rewording.outside i (by omega)] at isTick
    rw [rewording.escaped?_eq (by omega)]
    exact opens.begins i before isTick

theorem delimited_other (rewording : IsRewording text other span width) {second : Span}
    {otherWidth : Nat} (delimited : second.Delimited text otherWidth)
    (apartFrom : second.stop ≤ span.start ∨ second = span ∨ span.stop ≤ second.start) :
    second.Delimited other otherWidth := by
  have apart := delimited.apart
  have sameWidth : second = span → otherWidth = width := by
    rintro rfl
    exact delimited.opens.width_unique rewording.delimited.opens.toIsRun
  refine ⟨rewording.isOpening delimited.opens ?_, delimited.apart,
    rewording.isMaximalRun_iff.mpr ⟨delimited.closes, ?_⟩, ?_⟩
  · rcases apartFrom with before | same | past
    · omega
    · rw [same, sameWidth same]
      exact Or.inl (Nat.le_refl _)
    · exact Or.inr past
  · rcases apartFrom with before | same | past
    · omega
    · rw [same, sameWidth same]
      exact Or.inr (Nat.le_refl _)
    · omega
  · intro start least most run
    exact delimited.first start least most (rewording.isMaximalRun_iff.mp run).1

theorem isPlainTick (rewording : IsRewording text other span width)
    (apartFrom : i < span.start ∨ span.stop ≤ i) (plain : IsPlainTick text i) :
    IsPlainTick other i := by
  have delimited := rewording.delimited
  have apart := delimited.apart
  have positive := delimited.opens.positive
  cases plain with
  | escaped escape =>
    refine .escaped ?_
    rw [rewording.escaped?_eq (by omega)]
    exact escape
  | @unclosed start runWidth opens least most never =>
    -- A run that reaches into a delimiter of the span would be the opening run, or go on after it.
    have runApart : start + runWidth ≤ span.start ∨ span.stop ≤ start := by
      by_contra touches
      rcases apartFrom with before | past
      · have same := opens.start_eq delimited.opens (i := span.start) (by omega) (by omega)
          (Nat.le_refl _) (by omega)
        omega
      · exact delimited.stop_ne_tick (opens.tick_of_mem (by omega) (by omega))
    refine .unclosed (rewording.isOpening opens (by omega)) least most ?_
    intro later past run
    exact never later past (rewording.isMaximalRun_iff.mp run).1

theorem codeSpans_eq (rewording : IsRewording text other span width)
    (member : span ∈ codeSpans text) : codeSpans other = codeSpans text := by
  have areSpans := areCodeSpans_codeSpans text
  have areSpansOther : AreCodeSpans other (codeSpans text) := by
    refine ⟨areSpans.after, areSpans.ordered, ?_, ?_, ?_⟩
    · rw [rewording.length]
      exact areSpans.inside
    · intro second memberSecond
      obtain ⟨otherWidth, delimited⟩ := areSpans.delimited second memberSecond
      refine ⟨otherWidth, rewording.delimited_other delimited ?_⟩
      rcases Nat.lt_trichotomy second.start span.start with before | same | past
      · exact Or.inl (areSpans.stop_le_start memberSecond member before)
      · exact Or.inr (Or.inl (delimited.unique rewording.delimited same))
      · exact Or.inr (Or.inr (areSpans.stop_le_start member memberSecond past))
    · intro i least isTick apart
      have apartFrom := apart span member
      have outside := rewording.outside i (by omega)
      rw [outside] at isTick
      exact rewording.isPlainTick apartFrom (areSpans.plain i least isTick apart)
  exact (areCodeSpans_codeSpans other).unique areSpansOther

end IsRewording
end MarkdownReview.Document

/-!
Inline code is closed to the search for code. Where other text without a tick stands between the
delimiters of a span, each form stands outside the span where it stood, and the match of the line is
the same.
-/

namespace MarkdownReview.Code

open Document (IsRewording Span codeSpans tick)

variable {line other : Text} {span : Span} {width : Nat}

namespace Form

variable {form : Form}

/-- Before a span, a form ends at the first tick of the span at the latest; after the span, what
comes before the offset ends in a tick or in what stands after the span. -/
theorem endAt?_of_isRewording (rewording : IsRewording line other span width) (known : form ∈ forms)
    {start : Nat} (apartFrom : start ≤ span.start ∨ span.stop ≤ start) :
    form.endAt? other start = form.endAt? line start := by
  rcases apartFrom with before | past
  · have positive := rewording.delimited.opens.positive
    exact endAt?_congr_of_take known rewording.delimited.first_tick
      (rewording.take_eq (by omega)) before
  · rw [endAt?_eq known, endAt?_eq known, rewording.getLast?_take_eq past,
      rewording.drop_eq (by omega)]

theorem standsFree_of_isRewording (rewording : IsRewording line other span width)
    (member : span ∈ codeSpans line) (known : form ∈ forms) {place : Span} :
    form.StandsFree other place ↔ form.StandsFree line place := by
  have spans := rewording.codeSpans_eq member
  constructor
  · rintro ⟨stands, free⟩
    rw [spans] at free
    have nonempty := (endAt?_bounds known stands).1
    have apart := free span member
    rw [endAt?_of_isRewording rewording known (by omega)] at stands
    exact ⟨stands, free⟩
  · rintro ⟨stands, free⟩
    have nonempty := (endAt?_bounds known stands).1
    have apart := free span member
    rw [← endAt?_of_isRewording rewording known (by omega)] at stands
    rw [← spans] at free
    exact ⟨stands, free⟩

end Form

theorem firstMatch?_of_isRewording (rewording : IsRewording line other span width)
    (member : span ∈ codeSpans line) : firstMatch? other = firstMatch? line := by
  have known : ∀ form ∈ forms, form ∈ forms := fun form inside => inside
  have sameFree : ∀ form ∈ forms, ∀ place,
      form.StandsFree other place ↔ form.StandsFree line place :=
    fun form inside place => Form.standsFree_of_isRewording rewording member inside
  rw [firstMatch?_eq_matchOf?, firstMatch?_eq_matchOf?]
  apply Option.ext
  intro found
  rw [matchOf?_eq_some_iff known, matchOf?_eq_some_iff known]
  constructor
  · exact fun isFirst => isFirst.congr sameFree
  · exact fun isFirst => isFirst.congr fun form inside place => (sameFree form inside place).symm

/-- What stands between the delimiters of a code span changes neither the spans of a line nor the
match of that line. -/
theorem codeSpans_and_firstMatch?_reworded (line : Text) (span : Span) (inner : Text)
    (member : span ∈ codeSpans line) (silent : tick ∉ inner)
    (fits : inner.length = span.stop - span.start - 2 * span.delimiterWidth line) :
    codeSpans (span.reworded line inner) = codeSpans line ∧
      firstMatch? (span.reworded line inner) = firstMatch? line := by
  have rewording := Document.isRewording_reworded member silent fits
  exact ⟨rewording.codeSpans_eq member, firstMatch?_of_isRewording rewording member⟩

/-- A form, and a backslash before the closing run, in place of a single tick and an import. -/
theorem codeSpans_and_firstMatch?_reworded_import :
    let line := "a ``b `import c`` def f(x)".toList
    let span : Span := ⟨2, 17⟩
    let inner := "class C(A)\\".toList
    span ∈ codeSpans line ∧ tick ∉ inner ∧
      inner.length = span.stop - span.start - 2 * span.delimiterWidth line ∧
      codeSpans (span.reworded line inner) = codeSpans line ∧
      firstMatch? (span.reworded line inner) = firstMatch? line := by
  intro line span inner
  have member : span ∈ codeSpans line := by decide +kernel
  have silent : tick ∉ inner := by decide +kernel
  have fits : inner.length = span.stop - span.start - 2 * span.delimiterWidth line := by
    decide +kernel
  have same := codeSpans_and_firstMatch?_reworded line span inner member silent fits
  exact ⟨member, silent, fits, same⟩

end MarkdownReview.Code
