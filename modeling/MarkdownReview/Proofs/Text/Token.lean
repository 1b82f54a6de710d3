import Mathlib.Data.Set.Card
import MarkdownReview.Document
import MarkdownReview.Proofs.Text.Blank
/-!
Tokens as runs. The tokens of a text are as many as the maximal ranges of visible characters in it,
and blanks between two texts part the tokens of the one from those of the other.
-/

namespace MarkdownReview

namespace Text

open Document (Span)

section Tokens

variable {c : Char} {text gap : Text}

theorem tokens_cons_blank (blank : isBlank c = true) (text : Text) :
    tokens (c :: text) = tokens text := tokens_append_blank blank [] text

theorem tokens_blanks_append (blank : ∀ c ∈ gap, isBlank c = true) (text : Text) :
    tokens (gap ++ text) = tokens text := by
  induction gap with
  | nil => rfl
  | cons c gap ih =>
    rw [List.forall_mem_cons] at blank
    rw [List.cons_append, tokens_cons_blank blank.1, ih blank.2]

theorem tokens_append_blanks (nonempty : gap ≠ []) (blank : ∀ c ∈ gap, isBlank c = true)
    (first second : Text) : tokens (first ++ gap ++ second) = tokens first ++ tokens second := by
  obtain ⟨c, rest, rfl⟩ := List.exists_cons_of_ne_nil nonempty
  rw [List.forall_mem_cons] at blank
  calc
    tokens (first ++ c :: rest ++ second) = tokens first ++ tokens (rest ++ second) := by
      rw [List.append_assoc, List.cons_append, tokens_append_blank blank.1]
    _ = tokens first ++ tokens second := by rw [tokens_blanks_append blank.2]

theorem tokens_append_of_blank (blank : ∀ c ∈ gap, isBlank c = true) (text : Text) :
    tokens (text ++ gap) = tokens text := by
  by_cases empty : gap = []
  · rw [empty, List.append_nil]
  · have parted := tokens_append_blanks empty blank text []
    rwa [List.append_nil, show tokens [] = [] from rfl, List.append_nil] at parted

theorem tokens_of_visible (visible : ∀ c ∈ text, isBlank c = false) :
    tokens text = if text = [] then [] else [text] := by
  rw [tokens, List.splitOnP_eq_singleton visible]
  cases text <;> rfl

section Tidied

variable {keeps : Char → Bool}

theorem tokens_filter_trim (keepsBlanks : ∀ c, isBlank c = true → keeps c = true) (text : Text) :
    tokens ((trim text).filter keeps) = tokens (text.filter keeps) := by
  obtain ⟨lead, tail, whole, leadBlank, tailBlank⟩ := exists_trim text
  have keptLead := List.filter_eq_self.mpr fun c member => keepsBlanks c (leadBlank c member)
  have keptTail := List.filter_eq_self.mpr fun c member => keepsBlanks c (tailBlank c member)
  calc
    tokens ((trim text).filter keeps) = tokens (lead ++ (trim text).filter keeps ++ tail) := by
      rw [tokens_append_of_blank tailBlank, tokens_blanks_append leadBlank]
    _ = tokens (text.filter keeps) := by
      nth_rewrite 2 [← whole]
      rw [List.filter_append, List.filter_append, keptLead, keptTail]

/-- Blanks in a row part no more than one of them does; the text before them is arbitrary, unless a
blank has just been met. -/
theorem tokens_filter_joinBlanks (keepsBlanks : ∀ c, isBlank c = true → keeps c = true)
    {mark : Char} (isMark : isBlank mark = true) (text : Text) (inRun : Bool) (first : Text)
    (met : inRun = true → first = []) :
    tokens (first ++ (joinBlanks mark inRun text).filter keeps) =
      tokens (first ++ text.filter keeps) := by
  induction text generalizing inRun first with
  | nil => rfl
  | cons c rest ih =>
    have afterBlank := ih true [] fun _ => rfl
    rw [List.nil_append, List.nil_append] at afterBlank
    rw [joinBlanks]
    cases blank : isBlank c with
    | true =>
      rw [if_pos rfl, List.filter_cons_of_pos (keepsBlanks c blank), tokens_append_blank blank]
      cases inRun with
      | true =>
        rw [met rfl, if_pos rfl, List.nil_append, afterBlank]
        rfl
      | false =>
        rw [if_neg Bool.false_ne_true, List.filter_cons_of_pos (keepsBlanks mark isMark),
          tokens_append_blank isMark, afterBlank]
    | false =>
      rw [if_neg Bool.false_ne_true, List.filter_cons, List.filter_cons]
      cases keeps c with
      | true =>
        have later := ih false (first ++ [c]) (by simp)
        rwa [List.append_assoc, List.append_assoc] at later
      | false => exact ih false first (by simp)

theorem tokens_filter_tidied (keepsBlanks : ∀ c, isBlank c = true → keeps c = true) (text : Text) :
    tokens ((tidied text).filter keeps) = tokens (text.filter keeps) := by
  rw [tidied, tokens_filter_trim keepsBlanks]
  exact tokens_filter_joinBlanks keepsBlanks (by decide) text false [] fun _ => rfl

end Tidied

end Tokens

section Ranges

/-- A nonempty range of offsets at which something holds, and at neither side of which it does. -/
structure IsMaximalRange (holds : Nat → Prop) (range : Span) : Prop where
  nonempty : range.start < range.stop
  inside : ∀ i, range.start ≤ i → i < range.stop → holds i
  begins : ∀ i, i + 1 = range.start → ¬holds i
  ends : ¬holds range.stop

def movedOn (distance : Nat) (range : Span) : Span :=
  ⟨distance + range.start, distance + range.stop⟩

@[simp] theorem movedOn_start (distance : Nat) (range : Span) :
    (movedOn distance range).start = distance + range.start := rfl

@[simp] theorem movedOn_stop (distance : Nat) (range : Span) :
    (movedOn distance range).stop = distance + range.stop := rfl

theorem movedOn_injective (distance : Nat) : Function.Injective (movedOn distance) := by
  rintro ⟨start, stop⟩ ⟨otherStart, otherStop⟩ same
  simpa [movedOn] using same

theorem exists_movedOn {distance : Nat} {range : Span} (past : distance ≤ range.start)
    (nonempty : range.start < range.stop) : ∃ earlier, movedOn distance earlier = range := by
  refine ⟨⟨range.start - distance, range.stop - distance⟩, ?_⟩
  rw [movedOn, Nat.add_sub_cancel' past, Nat.add_sub_cancel' (by omega)]

variable {holds other : Nat → Prop} {range : Span} {distance : Nat}

theorem IsMaximalRange.congr (same : ∀ i ≤ range.stop, holds i ↔ other i)
    (maximal : IsMaximalRange holds range) : IsMaximalRange other range where
  nonempty := maximal.nonempty
  inside := by
    intro i least most
    exact (same i (by omega)).mp (maximal.inside i least most)
  begins := by
    intro i precedes
    have nonempty := maximal.nonempty
    rw [← same i (by omega)]
    exact maximal.begins i precedes
  ends := by
    rw [← same range.stop (Nat.le_refl _)]
    exact maximal.ends

theorem isMaximalRange_movedOn_iff (free : ∀ i, i + 1 = distance → ¬holds i) :
    IsMaximalRange holds (movedOn distance range) ↔
      IsMaximalRange (fun i => holds (distance + i)) range := by
  constructor
  · intro maximal
    obtain ⟨nonempty, inside, begins, ends⟩ := maximal
    simp only [movedOn_start, movedOn_stop] at nonempty inside begins ends
    constructor
    case nonempty => omega
    case inside => exact fun i least most => inside (distance + i) (by omega) (by omega)
    case begins => exact fun i precedes => begins (distance + i) (by omega)
    case ends => exact ends
  · intro maximal
    have nonempty := maximal.nonempty
    constructor <;> simp only [movedOn_start, movedOn_stop]
    case nonempty => omega
    case inside =>
      intro i least most
      obtain ⟨j, rfl⟩ := Nat.exists_eq_add_of_le (Nat.le_trans (Nat.le_add_right _ _) least)
      exact maximal.inside j (by omega) (by omega)
    case begins =>
      intro i precedes
      rcases Nat.lt_or_ge i distance with before | past
      · exact free i (by omega)
      · obtain ⟨j, rfl⟩ := Nat.exists_eq_add_of_le past
        exact maximal.begins j (by omega)
    case ends => exact maximal.ends

end Ranges

section Runs

def VisibleAt (text : Text) (i : Nat) : Prop := ∃ c, text[i]? = some c ∧ isBlank c = false

def visibleRuns (text : Text) : Set Span := { run | IsMaximalRange (VisibleAt text) run }

variable {c : Char} {first second text : Text} {i : Nat} {run : Span}

theorem VisibleAt.lt_length (visible : VisibleAt text i) : i < text.length := by
  obtain ⟨c, stands, -⟩ := visible
  exact (List.getElem?_eq_some_iff.mp stands).1

theorem visibleAt_append_left (blank : isBlank c = true) (upTo : i ≤ first.length) :
    VisibleAt (first ++ c :: second) i ↔ VisibleAt first i := by
  unfold VisibleAt
  rcases Nat.lt_or_eq_of_le upTo with inside | rfl
  · rw [List.getElem?_append_left inside]
  · simp [blank]

theorem visibleAt_append_right :
    VisibleAt (first ++ c :: second) (first.length + 1 + i) ↔ VisibleAt second i := by
  have past : (first ++ c :: second)[first.length + 1 + i]? = second[i]? := by
    rw [List.append_cons, List.getElem?_append_right] <;> simp
  rw [VisibleAt, VisibleAt, past]

theorem stop_le_length (isRun : run ∈ visibleRuns text) : run.stop ≤ text.length := by
  have nonempty := isRun.nonempty
  have last := (isRun.inside (run.stop - 1) (by omega) (by omega)).lt_length
  omega

theorem not_visibleAt_blank (blank : isBlank c = true) :
    ¬VisibleAt (first ++ c :: second) first.length := by
  rw [visibleAt_append_left blank (Nat.le_refl _)]
  exact fun visible => Nat.lt_irrefl _ visible.lt_length

theorem movedOn_mem_visibleRuns_iff (blank : isBlank c = true) :
    movedOn (first.length + 1) run ∈ visibleRuns (first ++ c :: second) ↔
      run ∈ visibleRuns second := by
  have free : ∀ i, i + 1 = first.length + 1 → ¬VisibleAt (first ++ c :: second) i := by
    intro i before
    rw [Nat.add_right_cancel before]
    exact not_visibleAt_blank blank
  calc
    movedOn (first.length + 1) run ∈ visibleRuns (first ++ c :: second) ↔ _ :=
      isMaximalRange_movedOn_iff free
    _ ↔ run ∈ visibleRuns second := by
      simp only [visibleAt_append_right]
      rfl

theorem visibleRuns_append_blank (blank : isBlank c = true) (first second : Text) :
    visibleRuns (first ++ c :: second) =
      visibleRuns first ∪ movedOn (first.length + 1) '' visibleRuns second := by
  have same {range : Span} (upTo : range.stop ≤ first.length) (i : Nat) (before : i ≤ range.stop) :
      VisibleAt (first ++ c :: second) i ↔ VisibleAt first i :=
    visibleAt_append_left blank (Nat.le_trans before upTo)
  ext run
  constructor
  · intro isRun
    rcases Nat.lt_or_ge first.length run.stop with past | upTo
    · have start : first.length + 1 ≤ run.start := by
        by_contra before
        exact not_visibleAt_blank blank (isRun.inside first.length (by omega) past)
      obtain ⟨earlier, rfl⟩ := exists_movedOn start isRun.nonempty
      exact Or.inr ⟨earlier, (movedOn_mem_visibleRuns_iff blank).mp isRun, rfl⟩
    · exact Or.inl (isRun.congr (same upTo))
  · intro either
    rcases either with isRun | ⟨run, isRun, rfl⟩
    · have upTo := stop_le_length isRun
      exact isRun.congr fun i before => (same upTo i before).symm
    · exact (movedOn_mem_visibleRuns_iff blank).mpr isRun

theorem encard_visibleRuns_append_blank (blank : isBlank c = true) (first second : Text) :
    (visibleRuns (first ++ c :: second)).encard =
      (visibleRuns first).encard + (visibleRuns second).encard := by
  have apart : Disjoint (visibleRuns first) (movedOn (first.length + 1) '' visibleRuns second) := by
    rw [Set.disjoint_left]
    rintro run isRun ⟨other, isOther, rfl⟩
    have upTo := stop_le_length isRun
    simp only [movedOn] at upTo
    omega
  rw [visibleRuns_append_blank blank, Set.encard_union_eq apart,
    (movedOn_injective (first.length + 1)).encard_image]

theorem visibleRuns_of_visible (visible : ∀ c ∈ text, isBlank c = false) :
    visibleRuns text = if text = [] then ∅ else {⟨0, text.length⟩} := by
  have visibleAt_iff (i : Nat) : VisibleAt text i ↔ i < text.length := by
    constructor
    · exact VisibleAt.lt_length
    · intro inside
      exact ⟨text[i], List.getElem?_eq_getElem inside, visible _ (List.getElem_mem inside)⟩
  have whole (run : Span) : run ∈ visibleRuns text ↔ 0 < text.length ∧ run = ⟨0, text.length⟩ := by
    constructor
    · intro isRun
      have nonempty := isRun.nonempty
      have upTo := stop_le_length isRun
      have starts := isRun.begins (run.start - 1)
      have ends := isRun.ends
      rw [visibleAt_iff] at starts ends
      rcases run with ⟨start, stop⟩
      simp only [Span.mk.injEq] at *
      omega
    · intro same
      obtain ⟨nonempty, rfl⟩ := same
      constructor
      case nonempty => exact nonempty
      case inside => exact fun i _ most => (visibleAt_iff i).mpr most
      case begins => exact fun i precedes => absurd precedes (Nat.succ_ne_zero i)
      case ends => exact fun visible => Nat.lt_irrefl _ visible.lt_length
  ext run
  rw [whole, List.length_pos_iff]
  split <;> simp [*]

theorem encard_visibleRuns (text : Text) :
    (visibleRuns text).encard = (tokens text).length := by
  induction size : text.length using Nat.strong_induction_on generalizing text with
  | _ size ih =>
    by_cases visible : ∀ c ∈ text, isBlank c = false
    · rw [visibleRuns_of_visible visible, tokens_of_visible visible]
      split <;> simp
    · simp only [not_forall, Bool.not_eq_false] at visible
      obtain ⟨c, member, blank⟩ := visible
      obtain ⟨first, second, rfl⟩ := List.append_of_mem member
      rw [List.length_append, List.length_cons] at size
      have before := ih first.length (by omega) first rfl
      have after := ih second.length (by omega) second rfl
      calc
        (visibleRuns (first ++ c :: second)).encard =
            (visibleRuns first).encard + (visibleRuns second).encard :=
          encard_visibleRuns_append_blank blank first second
        _ = (tokens (first ++ c :: second)).length := by
          rw [before, after, tokens_append_blank blank, List.length_append, Nat.cast_add]

end Runs
end Text
end MarkdownReview
