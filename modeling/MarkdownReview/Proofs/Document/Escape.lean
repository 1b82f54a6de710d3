import MarkdownReview.Proofs.Document.CodeSpan
/-!
Backslashes before an offset. Read back one at a time they are the run that ends there, and the
reading fails only past the end of the text; the character at the offset is escaped where the run is
odd. A scan for inline code that asks this of every tick it might open a span at gets an answer each
time, so it finds the spans of every text.
-/

namespace MarkdownReview.Document

variable {text : Text} {offset : Nat}

/-- How many backslashes stand right before an offset. The characters are read back one at a time,
and there is none to read past the end of the text. -/
def backslashesBefore? (text : Text) : (offset : Nat) → Option Nat
  | 0 => some 0
  | offset + 1 =>
    match text[offset]? with
    | none => none
    | some c => if c = backslash then (backslashesBefore? text offset).map (· + 1) else some 0

/-- Backslashes, or none, stand from `start` up to `stop`, and no backslash comes before them. -/
structure IsBackslashRun (text : Text) (start stop : Nat) : Prop where
  ordered : start ≤ stop
  backslashes : ∀ i, start ≤ i → i < stop → text[i]? = some backslash
  begins : ∀ i, i + 1 = start → text[i]? ≠ some backslash

theorem IsBackslashRun.start_le {start other stop : Nat} (run : IsBackslashRun text start stop)
    (second : IsBackslashRun text other stop) : other ≤ start := by
  by_contra later
  have ordered := second.ordered
  have inside := run.backslashes (other - 1) (by omega) (by omega)
  exact second.begins (other - 1) (by omega) inside

theorem IsBackslashRun.start_unique {start other stop : Nat} (run : IsBackslashRun text start stop)
    (second : IsBackslashRun text other stop) : start = other :=
  Nat.le_antisymm (second.start_le run) (run.start_le second)

theorem backslashesBefore?_past (past : text.length < offset) :
    backslashesBefore? text offset = none := by
  obtain ⟨last, rfl⟩ : ∃ last, offset = last + 1 := ⟨offset - 1, by omega⟩
  rw [backslashesBefore?, List.getElem?_eq_none (by omega)]

theorem exists_backslashesBefore (within : offset ≤ text.length) :
    ∃ count ≤ offset, backslashesBefore? text offset = some count ∧
      IsBackslashRun text (offset - count) offset ∧
      endsInEscape (text.take offset) = (count % 2 == 1) := by
  induction offset with
  | zero => exact ⟨0, Nat.le_refl 0, rfl, ⟨Nat.le_refl 0, by omega, by omega⟩, rfl⟩
  | succ offset ih =>
    obtain ⟨count, shorter, counted, run, parity⟩ := ih (by omega)
    have here : text[offset]? = some text[offset] := List.getElem?_eq_getElem within
    rw [backslashesBefore?, here, endsInEscape_take_succ here, parity]
    by_cases isBackslash : text[offset] = backslash
    · refine ⟨count + 1, by omega, ?_, ⟨by omega, ?_, ?_⟩, ?_⟩
      · simp only [if_pos isBackslash, counted, Option.map_some]
      · intro i least most
        by_cases last : i = offset
        · rw [last, here, isBackslash]
        · exact run.backslashes i (by omega) (by omega)
      · rw [Nat.add_sub_add_right]
        exact run.begins
      · rw [isBackslash, BEq.rfl, Bool.true_and]
        exact (odd_succ count).symm
    · refine ⟨0, Nat.zero_le _, ?_, ⟨by omega, by omega, ?_⟩, ?_⟩
      · simp only [if_neg isBackslash]
      · intro i before
        obtain rfl : i = offset := by omega
        rw [here, ne_eq, Option.some_inj]
        exact isBackslash
      · rw [beq_false_of_ne isBackslash]
        rfl

theorem escaped?_eq_backslashesBefore? (text : Text) (offset : Int) :
    escaped? text offset = (backslashesBefore? text offset.toNat).map (· % 2 == 1) := by
  unfold escaped?
  by_cases past : (text.length : Int) < offset
  · rw [if_pos past, backslashesBefore?_past (by omega), Option.map_none]
  · have within : offset.toNat ≤ text.length := by omega
    obtain ⟨count, -, counted, -, parity⟩ := exists_backslashesBefore within
    rw [if_neg past, counted, parity, Option.map_some]

theorem escaped?_eq_none_iff {text : Text} {offset : Int} :
    escaped? text offset = none ↔ (text.length : Int) < offset := by
  rw [escaped?, ite_eq_left_iff]
  simp

theorem escaped?_of_nonpos {offset : Int} (atStart : offset ≤ 0) :
    escaped? text offset = some false := by
  rw [escaped?_eq_backslashesBefore?, Int.toNat_of_nonpos atStart]
  rfl

theorem escaped?_iff_odd_run (within : offset ≤ text.length) :
    escaped? text offset = some true ↔
      ∃ start, IsBackslashRun text start offset ∧ (offset - start) % 2 = 1 := by
  obtain ⟨count, shorter, counted, run, -⟩ := exists_backslashesBefore within
  rw [escaped?_eq_backslashesBefore?, Int.toNat_natCast, counted, Option.map_some, Option.some_inj,
    beq_iff_eq]
  constructor
  · intro odd
    exact ⟨offset - count, run, by rwa [Nat.sub_sub_self shorter]⟩
  · rintro ⟨start, other, odd⟩
    rwa [← run.start_unique other, Nat.sub_sub_self shorter] at odd

theorem escaped?_succ_iff (within : offset < text.length) :
    escaped? text (offset + 1 : Nat) = some true ↔
      text[offset]? = some backslash ∧ escaped? text offset = some false := by
  have here : text[offset]? = some text[offset] := List.getElem?_eq_getElem within
  have after : escaped? text (offset + 1 : Nat) = some (endsInEscape (text.take (offset + 1))) := by
    rw [escaped?, if_neg (by omega), Int.toNat_natCast]
  rw [after, endsInEscape_take_succ here, escaped?_at here, here]
  simp

/-- The spans from an offset on, found by a scan that asks of each tick where a span might open
whether it is escaped. Without an answer there are no spans. -/
def askingFrom? (text : Text) (offset : Nat) : Option (List Span) :=
  if inside : offset < text.length then
    if text[offset] = tick then
      match escaped? text offset with
      | none => none
      | some true => askingFrom? text (offset + 1)
      | some false =>
        let width := ((text.drop (offset + 1)).takeWhile (· == tick)).length + 1
        match closing width 0 0 (text.drop (offset + width)) with
        | none => askingFrom? text (offset + width)
        | some past =>
          (askingFrom? text (offset + width + past)).map (⟨offset, offset + width + past⟩ :: ·)
    else askingFrom? text (offset + 1)
  else some []
termination_by text.length - offset

theorem isOpening_counted (here : text[offset]? = some tick)
    (unescaped : escaped? text offset = some false) (ready : IsReady text offset) :
    IsOpening text offset (((text.drop (offset + 1)).takeWhile (· == tick)).length + 1) := by
  rw [escaped?_at here, Option.some_inj] at unescaped
  obtain ⟨width, opens⟩ := exists_isOpening here unescaped ready
  rwa [opens.toIsRun.counted]

theorem askingFrom?_eq (ready : IsReady text offset) :
    askingFrom? text offset = some (scannedFrom text offset) := by
  fun_induction askingFrom? text offset with
  | case1 offset inside isTick unanswered =>
    rw [escaped?_eq_none_iff] at unanswered
    omega
  | case2 offset inside isTick escaped ih =>
    have here : text[offset]? = some tick := List.getElem?_eq_some_iff.mpr ⟨inside, isTick⟩
    have passes : tick = tick → endsInEscape (text.take offset) = true := by
      intro _
      rwa [escaped?_at here, Option.some_inj] at escaped
    rw [ih (isReady_succ here passes), scannedFrom_pass here passes]
  | case3 offset inside isTick unescaped width unclosed ih =>
    have here : text[offset]? = some tick := List.getElem?_eq_some_iff.mpr ⟨inside, isTick⟩
    have opens := isOpening_counted here unescaped ready
    rw [ih (isReady_of_ne_tick opens.ends), scannedFrom_unclosed opens unclosed]
  | case4 offset inside isTick unescaped width past closed ih =>
    have here : text[offset]? = some tick := List.getElem?_eq_some_iff.mpr ⟨inside, isTick⟩
    have opens := isOpening_counted here unescaped ready
    have delimited := opens.delimited_of_closing closed
    rw [ih (isReady_of_ne_tick delimited.stop_ne_tick), scannedFrom_closed opens closed]
    rfl
  | case5 offset inside other ih =>
    have here : text[offset]? = some text[offset] := List.getElem?_eq_getElem inside
    have passes : text[offset] = tick → endsInEscape (text.take offset) = true :=
      fun isTick => absurd isTick other
    rw [ih (isReady_succ here passes), scannedFrom_pass here passes]
  | case6 offset atEnd => rw [scannedFrom_end (Nat.not_lt.mp atEnd)]

theorem askingFrom?_zero (text : Text) : askingFrom? text 0 = some (codeSpans text) :=
  askingFrom?_eq fun _ before => by omega

/-- Whether an offset is escaped is unknown past the end of a text and nowhere else; before the text
and at its start nothing is escaped. Reading back one character at a time gives the same. Within the
text, one maximal run of backslashes ends at an offset, and the offset is escaped where that run is
odd, which is where an unescaped backslash comes right before it. The scan for inline code never
asks where the answer is unknown. -/
theorem escaped?_decides (text : Text) :
    (∀ offset : Int, (escaped? text offset = none ↔ (text.length : Int) < offset) ∧
      (offset ≤ 0 → escaped? text offset = some false) ∧
      escaped? text offset = (backslashesBefore? text offset.toNat).map (· % 2 == 1)) ∧
    (∀ offset : Nat, 1 ≤ offset → offset ≤ text.length →
      (∃! start, IsBackslashRun text start offset) ∧
      (escaped? text offset = some true ↔
        ∃ start, IsBackslashRun text start offset ∧ (offset - start) % 2 = 1) ∧
      (escaped? text offset = some true ↔
        text[offset - 1]? = some backslash ∧ escaped? text (offset - 1 : Nat) = some false)) ∧
    askingFrom? text 0 = some (codeSpans text) := by
  refine ⟨?_, ?_, askingFrom?_zero text⟩
  · intro offset
    exact ⟨escaped?_eq_none_iff, escaped?_of_nonpos, escaped?_eq_backslashesBefore? text offset⟩
  · intro offset positive within
    obtain ⟨last, rfl⟩ : ∃ last, offset = last + 1 := ⟨offset - 1, by omega⟩
    obtain ⟨count, -, -, run, -⟩ := exists_backslashesBefore within
    refine ⟨⟨_, run, fun other second => second.start_unique run⟩, escaped?_iff_odd_run within, ?_⟩
    exact escaped?_succ_iff within

/-- Three backslashes escape the tick after them, and then there is no inline code. -/
theorem escaped?_decides_three :
    let text := "a\\\\\\`b`".toList
    1 ≤ 4 ∧ 4 ≤ text.length ∧ escaped? text (4 : Nat) = some true ∧
      (∃ start, IsBackslashRun text start 4 ∧ (4 - start) % 2 = 1) ∧
      askingFrom? text 0 = some [] := by
  intro text
  obtain ⟨-, within, scan⟩ := escaped?_decides text
  have bound : 4 ≤ text.length := by decide
  obtain ⟨-, odd, -⟩ := within 4 (by decide) bound
  have escape : escaped? text (4 : Nat) = some true := by decide
  have none : codeSpans text = [] := by decide +kernel
  rw [none] at scan
  exact ⟨by decide, bound, escape, odd.mp escape, scan⟩

end MarkdownReview.Document
