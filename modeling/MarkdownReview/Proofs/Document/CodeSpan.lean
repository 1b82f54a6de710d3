import Mathlib.Data.List.Pairwise
import Mathlib.Data.List.Sort
import Mathlib.Data.List.TakeWhile
import MarkdownReview.Proofs.Document.TickRun
/-!
What the inline code spans of a text are. Each span runs from an opening run of ticks to the next
maximal run of the same width, and every tick outside the spans is escaped or stands in an opening
run that nothing closes. A text has one list of such spans, and the scan finds it.
-/

namespace MarkdownReview.Document

variable {text : Text} {offset : Nat}

theorem odd_succ (n : Nat) : ((n + 1) % 2 == 1) = !(n % 2 == 1) := by
  rcases Nat.mod_two_eq_zero_or_one n with even | odd
  · simp [Nat.add_mod, even]
  · simp [Nat.add_mod, odd]

theorem endsInEscape_concat (text : Text) (c : Char) :
    endsInEscape (text ++ [c]) = (c == backslash && !endsInEscape text) := by
  unfold endsInEscape
  rw [List.reverse_append, List.reverse_singleton, List.singleton_append, List.takeWhile_cons]
  cases c == backslash with
  | false => rfl
  | true =>
    rw [if_pos rfl, List.length_cons, Bool.true_and]
    exact odd_succ _

theorem endsInEscape_take_succ {c : Char} (here : text[offset]? = some c) :
    endsInEscape (text.take (offset + 1)) =
      (c == backslash && !endsInEscape (text.take offset)) := by
  rw [List.take_add_one, here, Option.toList_some, endsInEscape_concat]

theorem endsInEscape_after_tick (here : text[offset]? = some tick) :
    endsInEscape (text.take (offset + 1)) = false := by
  rw [endsInEscape_take_succ here]
  rfl

theorem escaped?_at {c : Char} (here : text[offset]? = some c) :
    escaped? text offset = some (endsInEscape (text.take offset)) := by
  have inside := (List.getElem?_eq_some_iff.mp here).1
  rw [escaped?, if_neg (by omega), Int.toNat_natCast]

/-- A run that can open a span. It begins where no tick comes before it, or an escaped one. -/
structure IsOpening (text : Text) (start width : Nat) : Prop extends IsRun text start width where
  unescaped : escaped? text start = some false
  begins : ∀ i, i + 1 = start → text[i]? = some tick → escaped? text i = some true

theorem IsOpening.start_eq {start width other otherWidth i : Nat} (run : IsOpening text start width)
    (second : IsOpening text other otherWidth) (least : start ≤ i) (most : i < start + width)
    (leastOther : other ≤ i) (mostOther : i < other + otherWidth) : start = other := by
  have notBefore : ∀ {first firstWidth last lastWidth : Nat}, IsOpening text first firstWidth →
      IsOpening text last lastWidth → first ≤ i → i < first + firstWidth → last ≤ i →
      ¬first < last := by
    intro first firstWidth last lastWidth one two leastOne mostOne leastTwo less
    have here := one.tick_of_mem (i := last - 1) (by omega) (by omega)
    have escape := two.begins (last - 1) (by omega) here
    by_cases atStart : last - 1 = first
    · rw [atStart, one.unescaped] at escape
      cases escape
    · have before := one.tick_of_mem (i := last - 2) (by omega) (by omega)
      have unescaped := endsInEscape_after_tick before
      rw [show last - 2 + 1 = last - 1 by omega] at unescaped
      rw [escaped?_at here, unescaped] at escape
      cases escape
  have first := notBefore run second least most leastOther
  have last := notBefore second run leastOther mostOther least
  omega

/-- A span runs from an opening run to the first maximal run of its width after it, and there is
text between the two. -/
structure Span.Delimited (text : Text) (span : Span) (width : Nat) : Prop where
  opens : IsOpening text span.start width
  apart : span.start + width < span.stop - width
  closes : IsMaximalRun text (span.stop - width) width
  first : ∀ start, span.start + width ≤ start → start + width ≤ span.stop - width →
    ¬IsMaximalRun text start width

namespace Span.Delimited

variable {span : Span} {width : Nat}

theorem stop_le_length (delimited : span.Delimited text width) : span.stop ≤ text.length := by
  have apart := delimited.apart
  have within := delimited.closes.stop_le_length
  omega

theorem first_tick (delimited : span.Delimited text width) : text[span.start]? = some tick :=
  delimited.opens.toIsRun.first_tick

theorem last_tick (delimited : span.Delimited text width) :
    text[span.stop - 1]? = some tick := by
  have positive := delimited.opens.positive
  have apart := delimited.apart
  exact delimited.closes.tick_of_mem (by omega) (by omega)

theorem stop_ne_tick (delimited : span.Delimited text width) : text[span.stop]? ≠ some tick := by
  have apart := delimited.apart
  have ends := delimited.closes.ends
  rwa [Nat.sub_add_cancel (by omega)] at ends

theorem stop_le {other : Span} {otherWidth : Nat} (delimited : span.Delimited text width)
    (second : other.Delimited text otherWidth) (same : span.start = other.start) :
    span.stop ≤ other.stop := by
  have opens := second.opens
  rw [← same] at opens
  obtain rfl := delimited.opens.width_unique opens.toIsRun
  have apart := delimited.apart
  have apartOther := second.apart
  by_contra shorter
  have before := second.closes.stop_le_start delimited.closes (by omega)
  exact delimited.first (other.stop - width) (by omega) before second.closes

theorem unique {other : Span} {otherWidth : Nat} (delimited : span.Delimited text width)
    (second : other.Delimited text otherWidth) (same : span.start = other.start) :
    span = other := by
  have stops := Nat.le_antisymm (delimited.stop_le second same) (second.stop_le delimited same.symm)
  cases span
  cases other
  simp only [Span.mk.injEq]
  exact ⟨same, stops⟩

theorem endsInEscape_stop (delimited : span.Delimited text width) :
    endsInEscape (text.take span.stop) = false := by
  have apart := delimited.apart
  have after := endsInEscape_after_tick delimited.last_tick
  rwa [Nat.sub_add_cancel (by omega)] at after

end Span.Delimited

/-- A tick that is no part of a span. -/
inductive IsPlainTick (text : Text) (i : Nat) : Prop
  | escaped (escape : escaped? text i = some true)
  | unclosed {start width : Nat} (opens : IsOpening text start width) (least : start ≤ i)
      (most : i < start + width)
      (never : ∀ later, start + width ≤ later → ¬IsMaximalRun text later width)

/-- The spans of a text from an offset on, in ascending order. -/
structure AreCodeSpansFrom (text : Text) (offset : Nat) (spans : List Span) : Prop where
  after : ∀ span ∈ spans, offset ≤ span.start
  ordered : spans.Pairwise fun first second => first.stop ≤ second.start
  inside : ∀ span ∈ spans, span.stop ≤ text.length
  delimited : ∀ span ∈ spans, ∃ width, span.Delimited text width
  plain : ∀ i, offset ≤ i → text[i]? = some tick →
    (∀ span ∈ spans, i < span.start ∨ span.stop ≤ i) → IsPlainTick text i

def AreCodeSpans (text : Text) (spans : List Span) : Prop := AreCodeSpansFrom text 0 spans

namespace AreCodeSpansFrom

variable {spans : List Span}

theorem nil (atEnd : text.length ≤ offset) : AreCodeSpansFrom text offset [] := by
  refine ⟨List.forall_mem_nil _, List.Pairwise.nil, List.forall_mem_nil _,
    List.forall_mem_nil _, ?_⟩
  intro i least isTick
  have inside := (List.getElem?_eq_some_iff.mp isTick).1
  omega

theorem pass {stop : Nat} (later : AreCodeSpansFrom text stop spans) (ordered : offset ≤ stop)
    (passed : ∀ i, offset ≤ i → i < stop → text[i]? = some tick → IsPlainTick text i) :
    AreCodeSpansFrom text offset spans := by
  refine ⟨?_, later.ordered, later.inside, later.delimited, ?_⟩
  · exact fun span member => Nat.le_trans ordered (later.after span member)
  · intro i least isTick outside
    by_cases before : i < stop
    · exact passed i least before isTick
    · exact later.plain i (Nat.not_lt.mp before) isTick outside

theorem cons {span : Span} {width : Nat} (later : AreCodeSpansFrom text span.stop spans)
    (delimited : span.Delimited text width) :
    AreCodeSpansFrom text span.start (span :: spans) := by
  have apart := delimited.apart
  have within := delimited.closes.stop_le_length
  constructor
  case after =>
    intro other member
    rcases List.mem_cons.mp member with rfl | member
    · exact Nat.le_refl _
    · have least := later.after other member
      omega
  case ordered => exact List.Pairwise.cons later.after later.ordered
  case inside =>
    intro other member
    rcases List.mem_cons.mp member with rfl | member
    · omega
    · exact later.inside other member
  case delimited =>
    intro other member
    rcases List.mem_cons.mp member with rfl | member
    · exact ⟨width, delimited⟩
    · exact later.delimited other member
  case plain =>
    intro i least isTick outside
    have pastSpan : span.stop ≤ i := by
      have apart := outside span (List.mem_cons_self ..)
      omega
    exact later.plain i pastSpan isTick fun other member =>
      outside other (List.mem_cons_of_mem _ member)

end AreCodeSpansFrom

theorem spansFrom_skip (skip offset : Nat) (text : Text) :
    spansFrom skip offset false text = spansFrom 0 (offset + skip) false (text.drop skip) := by
  induction text generalizing skip offset with
  | nil =>
    rw [List.drop_nil]
    cases skip <;> rfl
  | cons c rest ih =>
    cases skip with
    | zero => rfl
    | succ skip =>
      rw [spansFrom, ih, List.drop_succ_cons]
      congr 1
      omega

theorem isRun_of_drop_eq {width : Nat} {rest : Text} (positive : 0 < width)
    (ahead : text.drop offset = List.replicate width tick ++ rest) (ends : rest.head? ≠ some tick) :
    IsRun text offset width := by
  refine ⟨positive, ?_, ?_⟩
  · intro i inside
    rw [← List.getElem?_drop, ahead, List.getElem?_append_left (by simpa using inside),
      List.getElem?_replicate_of_lt inside]
  · rw [← List.getElem?_drop, ahead, List.getElem?_append_right (by simp), List.length_replicate,
      Nat.sub_self, ← List.head?_eq_getElem?]
    exact ends

theorem drop_eq_run_append {rest : Text} (ahead : text.drop offset = tick :: rest) :
    text.drop offset = List.replicate ((rest.takeWhile (· == tick)).length + 1) tick ++
        rest.dropWhile (· == tick) ∧
      (rest.dropWhile (· == tick)).head? ≠ some tick := by
  have marks : rest.takeWhile (· == tick) =
      List.replicate (rest.takeWhile (· == tick)).length tick := by
    apply List.eq_replicate_of_mem
    intro c member
    exact beq_iff_eq.mp (List.mem_takeWhile_imp (p := (· == tick)) member)
  refine ⟨?_, ?_⟩
  · rw [List.replicate_succ, ← marks, ahead, List.cons_append, List.takeWhile_append_dropWhile]
  · intro isTick
    have notTick := List.head?_dropWhile_not (· == tick) rest
    rw [isTick] at notTick
    simp at notTick

theorem drop_eq_after_run {rest : Text} (ahead : text.drop offset = tick :: rest) :
    text.drop (offset + ((rest.takeWhile (· == tick)).length + 1)) =
      rest.dropWhile (· == tick) := by
  rw [← List.drop_drop, (drop_eq_run_append ahead).1, List.drop_left' (by simp)]

theorem drop_eq_cons_of_getElem? {c : Char} (here : text[offset]? = some c) :
    text.drop offset = c :: text.drop (offset + 1) := by
  obtain ⟨inside, same⟩ := List.getElem?_eq_some_iff.mp here
  rw [← same]
  exact List.drop_eq_getElem_cons inside

theorem exists_isRun (here : text[offset]? = some tick) : ∃ width, IsRun text offset width := by
  obtain ⟨split, ends⟩ := drop_eq_run_append (drop_eq_cons_of_getElem? here)
  exact ⟨_, isRun_of_drop_eq (Nat.succ_pos _) split ends⟩

theorem IsRun.counted {width : Nat} (run : IsRun text offset width) :
    ((text.drop (offset + 1)).takeWhile (· == tick)).length + 1 = width := by
  obtain ⟨split, ends⟩ := drop_eq_run_append (drop_eq_cons_of_getElem? run.first_tick)
  exact (isRun_of_drop_eq (Nat.succ_pos _) split ends).width_unique run

theorem spansFrom_opening (offset : Nat) (rest : Text) :
    let width := (rest.takeWhile (· == tick)).length + 1
    spansFrom 0 offset false (tick :: rest) =
      match closing width 0 0 (rest.dropWhile (· == tick)) with
      | none => spansFrom 0 (offset + width) false (rest.dropWhile (· == tick))
      | some past => ⟨offset, offset + width + past⟩ ::
          spansFrom 0 (offset + width + past) false ((rest.dropWhile (· == tick)).drop past) := by
  intro width
  have afterRun : rest.drop (width - 1) = rest.dropWhile (· == tick) := by
    have dropped := drop_eq_after_run (List.drop_zero : List.drop 0 (tick :: rest) = _)
    rwa [Nat.zero_add, List.drop_succ_cons] at dropped
  rw [spansFrom, if_pos rfl, if_neg Bool.false_ne_true]
  change (match closing width 0 0 (rest.dropWhile (· == tick)) with
    | none => spansFrom (width - 1) (offset + 1) false rest
    | some past => ⟨offset, offset + width + past⟩ ::
        spansFrom (width + past - 1) (offset + 1) false rest) = _
  have positive : 0 < width := Nat.succ_pos _
  cases closing width 0 0 (rest.dropWhile (· == tick)) with
  | none =>
    have counts : offset + 1 + (width - 1) = offset + width := by omega
    change spansFrom (width - 1) (offset + 1) false rest = _
    rw [spansFrom_skip, afterRun, counts]
  | some past =>
    have counts : offset + 1 + (width + past - 1) = offset + width + past := by omega
    have skipped : width + past - 1 = (width - 1) + past := by omega
    change _ :: spansFrom (width + past - 1) (offset + 1) false rest = _
    rw [spansFrom_skip, counts, skipped, ← List.drop_drop, afterRun]

/-- Where a scan may look for a span: it has not just passed the beginning of the run ahead. -/
def IsReady (text : Text) (offset : Nat) : Prop :=
  ∀ i, i + 1 = offset → text[i]? = some tick → text[offset]? = some tick →
    escaped? text i = some true

theorem isReady_of_ne_tick (other : text[offset]? ≠ some tick) : IsReady text offset :=
  fun _ _ _ isTick => absurd isTick other

namespace IsOpening

variable {width : Nat}

theorem delimited_of_closing {past : Nat} (opens : IsOpening text offset width)
    (found : closing width 0 0 (text.drop (offset + width)) = some past) :
    Span.Delimited text ⟨offset, offset + width + past⟩ width := by
  obtain ⟨start, isFirst, stops⟩ := isFirstRun_of_closing_eq_some opens.positive found
  rw [List.replicate_zero, List.nil_append] at isFirst
  have closes := (isMaximalRun_drop_iff opens.ends).mp isFirst.maximal
  have ending : offset + width + past - width = offset + width + start := by omega
  have positive : start ≠ 0 := by
    intro atStart
    rw [atStart] at closes
    exact opens.ends closes.first_tick
  refine ⟨opens, ?_, ?_, ?_⟩
  · change offset + width < offset + width + past - width
    omega
  · change IsMaximalRun text (offset + width + past - width) width
    rw [ending]
    exact closes
  · intro other least most run
    change offset + width ≤ other at least
    change other + width ≤ offset + width + past - width at most
    have widthPositive := opens.positive
    refine isFirst.first (other - (offset + width)) (by omega) ?_
    rw [isMaximalRun_drop_iff opens.ends, Nat.add_sub_cancel' least]
    exact run

theorem isPlainTick_of_closing (opens : IsOpening text offset width)
    (missing : closing width 0 0 (text.drop (offset + width)) = none) {i : Nat}
    (least : offset ≤ i) (most : i < offset + width) : IsPlainTick text i := by
  refine .unclosed opens least most ?_
  intro later past run
  refine not_isMaximalRun_of_closing_eq_none missing (later - (offset + width)) ?_
  rw [List.replicate_zero, List.nil_append, isMaximalRun_drop_iff opens.ends,
    Nat.add_sub_cancel' past]
  exact run

end IsOpening

def scannedFrom (text : Text) (offset : Nat) : List Span :=
  spansFrom 0 offset (endsInEscape (text.take offset)) (text.drop offset)

theorem scannedFrom_end (atEnd : text.length ≤ offset) : scannedFrom text offset = [] := by
  rw [scannedFrom, List.drop_eq_nil_of_le atEnd, spansFrom]

theorem scannedFrom_pass {c : Char} (here : text[offset]? = some c)
    (passes : c = tick → endsInEscape (text.take offset) = true) :
    scannedFrom text offset = scannedFrom text (offset + 1) := by
  rw [scannedFrom, scannedFrom, drop_eq_cons_of_getElem? here, spansFrom]
  by_cases isTick : c = tick
  · subst isTick
    rw [if_pos rfl, if_pos (passes rfl), endsInEscape_after_tick here]
  · rw [if_neg isTick, endsInEscape_take_succ here]

section Opening

variable {width : Nat}

theorem scannedFrom_opening (opens : IsOpening text offset width) :
    scannedFrom text offset =
      match closing width 0 0 (text.drop (offset + width)) with
      | none => spansFrom 0 (offset + width) false (text.drop (offset + width))
      | some past => ⟨offset, offset + width + past⟩ ::
          spansFrom 0 (offset + width + past) false (text.drop (offset + width + past)) := by
  have here := opens.first_tick
  have ahead := drop_eq_cons_of_getElem? here
  have afterRun := drop_eq_after_run ahead
  have counted := opens.toIsRun.counted
  have unescaped : endsInEscape (text.take offset) = false := by
    have known := opens.unescaped
    rwa [escaped?_at here, Option.some_inj] at known
  rw [counted] at afterRun
  rw [scannedFrom, unescaped, ahead, spansFrom_opening, counted, ← afterRun]
  simp only [List.drop_drop]

theorem scannedFrom_unclosed (opens : IsOpening text offset width)
    (missing : closing width 0 0 (text.drop (offset + width)) = none) :
    scannedFrom text offset = scannedFrom text (offset + width) := by
  have positive := opens.positive
  have last := opens.tick_of_mem (i := offset + width - 1) (by omega) (by omega)
  have unescaped := endsInEscape_after_tick last
  rw [Nat.sub_add_cancel (by omega)] at unescaped
  rw [scannedFrom_opening opens, missing, scannedFrom, unescaped]

theorem scannedFrom_closed {past : Nat} (opens : IsOpening text offset width)
    (found : closing width 0 0 (text.drop (offset + width)) = some past) :
    scannedFrom text offset =
      ⟨offset, offset + width + past⟩ :: scannedFrom text (offset + width + past) := by
  have unescaped := (opens.delimited_of_closing found).endsInEscape_stop
  rw [scannedFrom_opening opens, found, scannedFrom, unescaped]

end Opening

theorem isReady_succ {c : Char} (here : text[offset]? = some c)
    (passes : c = tick → endsInEscape (text.take offset) = true) : IsReady text (offset + 1) := by
  intro i before isTick _
  obtain rfl : i = offset := by omega
  rw [here, Option.some_inj] at isTick
  rw [escaped?_at here, passes isTick]

theorem exists_isOpening (here : text[offset]? = some tick)
    (unescaped : endsInEscape (text.take offset) = false) (ready : IsReady text offset) :
    ∃ width, IsOpening text offset width := by
  obtain ⟨width, run⟩ := exists_isRun here
  refine ⟨width, run, ?_, fun i before isTick => ready i before isTick here⟩
  rw [escaped?_at here, unescaped]

/-- By induction on how much text is ahead, with one case for each step of the scan. -/
theorem areCodeSpansFrom_scannedFrom (ready : IsReady text offset) :
    AreCodeSpansFrom text offset (scannedFrom text offset) := by
  induction remaining : text.length - offset using Nat.strong_induction_on generalizing offset with
  | h remaining ih =>
    by_cases atEnd : text.length ≤ offset
    · rw [scannedFrom_end atEnd]
      exact .nil atEnd
    have goOn (stop : Nat) (further : offset < stop) (ready : IsReady text stop) :=
      ih (text.length - stop) (by omega) ready rfl
    obtain ⟨c, here⟩ : ∃ c, text[offset]? = some c :=
      ⟨_, List.getElem?_eq_getElem (Nat.not_le.mp atEnd)⟩
    by_cases passes : c = tick → endsInEscape (text.take offset) = true
    · have later := goOn (offset + 1) (Nat.lt_succ_self offset) (isReady_succ here passes)
      rw [scannedFrom_pass here passes]
      refine later.pass (Nat.le_succ offset) ?_
      intro i least most isTick
      obtain rfl : i = offset := by omega
      rw [here, Option.some_inj] at isTick
      exact .escaped (by rw [escaped?_at here, passes isTick])
    · obtain ⟨rfl, unescaped⟩ := Classical.not_imp.mp passes
      obtain ⟨width, opens⟩ := exists_isOpening here (Bool.eq_false_iff.mpr unescaped) ready
      have positive := opens.positive
      cases found : closing width 0 0 (text.drop (offset + width)) with
      | none =>
        have later := goOn (offset + width) (by omega) (isReady_of_ne_tick opens.ends)
        rw [scannedFrom_unclosed opens found]
        exact later.pass (Nat.le_add_right ..) fun i least most _ =>
          opens.isPlainTick_of_closing found least most
      | some past =>
        have delimited := opens.delimited_of_closing found
        have later := goOn (offset + width + past) (by omega)
          (isReady_of_ne_tick delimited.stop_ne_tick)
        rw [scannedFrom_closed opens found]
        exact later.cons delimited

namespace AreCodeSpans

variable {spans others : List Span}

theorem start_lt_stop (areSpans : AreCodeSpans text spans) {span : Span} (member : span ∈ spans) :
    span.start < span.stop := by
  obtain ⟨width, delimited⟩ := areSpans.delimited span member
  have apart := delimited.apart
  omega

theorem stop_le_start (areSpans : AreCodeSpans text spans) {first second : Span}
    (memberFirst : first ∈ spans) (memberSecond : second ∈ spans)
    (earlier : first.start < second.start) : first.stop ≤ second.start := by
  have symmetric : Std.Symm fun one two : Span => one.stop ≤ two.start ∨ two.stop ≤ one.start :=
    ⟨fun _ _ => Or.symm⟩
  have different : first ≠ second := by
    intro same
    rw [same] at earlier
    exact Nat.lt_irrefl _ earlier
  have apart : spans.Pairwise fun one two => one.stop ≤ two.start ∨ two.stop ≤ one.start :=
    areSpans.ordered.imp Or.inl
  rcases apart.forall memberFirst memberSecond different with before | after
  · exact before
  · have nonempty := areSpans.start_lt_stop memberSecond
    omega

/-- Two lists of spans of a text hold the same spans. By induction on where a span starts: were it
missing from the other list, nothing there could account for its first tick. -/
theorem mem_of_mem (areSpans : AreCodeSpans text spans) (areOthers : AreCodeSpans text others)
    {span : Span} (member : span ∈ spans) : span ∈ others := by
  induction start : span.start using Nat.strong_induction_on
    generalizing spans others span with
  | h start ih =>
    subst start
    obtain ⟨width, delimited⟩ := areSpans.delimited span member
    have isTick := delimited.first_tick
    by_cases covered : ∃ other ∈ others, other.start ≤ span.start ∧ span.start < other.stop
    · obtain ⟨other, memberOther, least, most⟩ := covered
      rcases Nat.lt_or_eq_of_le least with before | same
      · have shared := ih other.start before areOthers areSpans memberOther rfl
        have apart := areSpans.stop_le_start shared member before
        omega
      · obtain ⟨otherWidth, delimitedOther⟩ := areOthers.delimited other memberOther
        rw [delimited.unique delimitedOther same.symm]
        exact memberOther
    · have outside : ∀ other ∈ others, span.start < other.start ∨ other.stop ≤ span.start := by
        intro other memberOther
        by_contra inside
        exact covered ⟨other, memberOther, by omega, by omega⟩
      cases areOthers.plain span.start (Nat.zero_le _) isTick outside with
      | escaped escape =>
        rw [delimited.opens.unescaped] at escape
        cases escape
      | unclosed opens least most never =>
        have positive := delimited.opens.positive
        have same := delimited.opens.start_eq opens (Nat.le_refl _) (by omega) least most
        subst same
        obtain rfl := delimited.opens.width_unique opens.toIsRun
        exact absurd delimited.closes (never _ (Nat.le_of_lt delimited.apart))

theorem unique (areSpans : AreCodeSpans text spans) (areOthers : AreCodeSpans text others) :
    spans = others := by
  have irreflexive : Std.Irrefl fun one two : Span => one.start < two.start :=
    ⟨fun _ => Nat.lt_irrefl _⟩
  have antisymmetric : Std.Antisymm fun one two : Span => one.start < two.start :=
    ⟨fun _ _ less greater => absurd (Nat.lt_trans less greater) (Nat.lt_irrefl _)⟩
  have ascending {list : List Span} (areSpans : AreCodeSpans text list) :
      list.Pairwise fun one two => one.start < two.start :=
    areSpans.ordered.imp_of_mem fun memberFirst _ before =>
      Nat.lt_of_lt_of_le (areSpans.start_lt_stop memberFirst) before
  exact List.Subset.antisymm_of_pairwise (ascending areSpans) (ascending areOthers)
    (fun _ member => areSpans.mem_of_mem areOthers member)
    (fun _ member => areOthers.mem_of_mem areSpans member)

end AreCodeSpans

theorem areCodeSpans_codeSpans (text : Text) : AreCodeSpans text (codeSpans text) :=
  areCodeSpansFrom_scannedFrom fun _ before => by omega

/-- The scan finds the inline code of a text, and nothing else is the inline code of that text. -/
theorem areCodeSpans_iff (text : Text) (spans : List Span) :
    AreCodeSpans text spans ↔ spans = codeSpans text := by
  refine ⟨fun areSpans => areSpans.unique (areCodeSpans_codeSpans text), ?_⟩
  rintro rfl
  exact areCodeSpans_codeSpans text

-- An escaped tick opens nothing, and a run that nothing closes leaves the span after it alone.
example : codeSpans "\\`a ``b `c` d".toList = [⟨8, 11⟩] := by decide +kernel

end MarkdownReview.Document
