import MarkdownReview.Proofs.Text.Token
import MarkdownReview.Review
/-!
How words add up. Texts with blanks between them are counted apart, an ideograph counts as one word
wherever it stands, and without ideographs the words are the maximal runs of visible characters.
-/

namespace MarkdownReview

theorem isIdeograph_of_isBlank {c : Char} (blank : Text.isBlank c = true) :
    Text.isIdeograph c = false := by
  have notWord := Text.isWord_of_isBlank blank
  simp only [Text.isWord, Bool.or_eq_false_iff] at notWord
  exact notWord.1.2

theorem countP_isIdeograph_tidied (text : Text) :
    (Text.tidied text).countP Text.isIdeograph = text.countP Text.isIdeograph := by
  have trimmed := Text.Thinned.trim (fun _ => id) (Text.joinBlanks ' ' false text)
  rw [List.countP_eq_length_filter, List.countP_eq_length_filter, Text.tidied,
    trimmed.filter_eq fun _ => isIdeograph_of_isBlank,
    Text.filter_joinBlanks (fun _ => isIdeograph_of_isBlank) (by decide)]

/-- That the blanks are tidied first makes no difference. -/
theorem wordCount_eq (text : Text) :
    wordCount text = text.countP Text.isIdeograph +
      (Text.tokens (text.filter fun c => !Text.isIdeograph c)).length := by
  have keepsBlanks (c : Char) (blank : Text.isBlank c = true) : (!Text.isIdeograph c) = true := by
    rw [isIdeograph_of_isBlank blank]
    rfl
  rw [← countP_isIdeograph_tidied, ← Text.tokens_filter_tidied keepsBlanks, wordCount]
  split
  next empty =>
    rw [empty]
    rfl
  next => rfl

theorem wordCount_of_plain {text : Text} (plain : ∀ c ∈ text, Text.isIdeograph c = false) :
    wordCount text = (Text.tokens text).length := by
  have none : text.countP Text.isIdeograph = 0 := by
    simpa [List.countP_eq_zero] using plain
  have kept : text.filter (fun c => !Text.isIdeograph c) = text := by
    simpa [List.filter_eq_self] using plain
  rw [wordCount_eq, none, kept, Nat.zero_add]

theorem wordCount_append_blanks {gap : Text} (nonempty : gap ≠ [])
    (blank : ∀ c ∈ gap, Text.isBlank c = true) (first second : Text) :
    wordCount (first ++ gap ++ second) = wordCount first + wordCount second := by
  have plain : ∀ c ∈ gap, Text.isIdeograph c = false :=
    fun c member => isIdeograph_of_isBlank (blank c member)
  have none : gap.countP Text.isIdeograph = 0 := by
    simpa [List.countP_eq_zero] using plain
  have kept : gap.filter (fun c => !Text.isIdeograph c) = gap := by
    simpa [List.filter_eq_self] using plain
  simp only [wordCount_eq, List.countP_append, List.filter_append, none, kept,
    Text.tokens_append_blanks nonempty blank, List.length_append]
  omega

theorem wordCount_append_ideograph {c : Char} (ideograph : Text.isIdeograph c = true)
    (first second : Text) :
    wordCount (first ++ c :: second) = wordCount (first ++ second) + 1 := by
  simp only [wordCount_eq, List.countP_append, List.countP_cons_of_pos ideograph, List.filter_append,
    List.filter_cons, ideograph, Bool.not_true, Bool.false_eq_true, if_false]
  omega

/-- Blanks between two texts part their words, an ideograph is one word more and parts nothing, and
in a text without ideographs each maximal run of visible characters is a word. -/
theorem wordCount_additive (first second : Text) :
    (∀ gap, gap ≠ [] → (∀ c ∈ gap, Text.isBlank c = true) →
      wordCount (first ++ gap ++ second) = wordCount first + wordCount second) ∧
    (∀ c, Text.isIdeograph c = true →
      wordCount (first ++ c :: second) = wordCount (first ++ second) + 1) ∧
    ∀ text, (∀ c ∈ text, Text.isIdeograph c = false) →
      (Text.visibleRuns text).encard = wordCount text := by
  refine ⟨?blanks, ?ideograph, ?plain⟩
  case blanks => exact fun gap nonempty blank => wordCount_append_blanks nonempty blank first second
  case ideograph => exact fun c ideograph => wordCount_append_ideograph ideograph first second
  case plain =>
    intro text plain
    rw [Text.encard_visibleRuns, wordCount_of_plain plain]

/-- The wide space parts words as the narrow one does, and the ideograph leaves the letters on both
sides of it one word. -/
theorem wordCount_additive_mixed :
    let first := "Use pip".toList
    let second := "安装 now".toList
    wordCount (first ++ "\u3000 ".toList ++ second) = 2 + 3 ∧
      wordCount ("pi".toList ++ '装' :: "p now".toList) = 2 + 1 ∧
      (Text.visibleRuns first).encard = 2 := by
  intro first second
  obtain ⟨blanks, -, plain⟩ := wordCount_additive first second
  obtain ⟨-, ideograph, -⟩ := wordCount_additive "pi".toList "p now".toList
  have noIdeograph : first.all (!Text.isIdeograph ·) = true := by decide
  have parted := blanks "\u3000 ".toList (by decide) (List.all_eq_true.mp (by decide))
  have glued := ideograph '装' (by decide)
  have runs := plain first (by simpa using List.all_eq_true.mp noIdeograph)
  refine ⟨parted.trans (by decide +kernel), glued.trans (by decide +kernel), runs.trans ?_⟩
  have count : wordCount first = 2 := by decide +kernel
  rw [count]
  rfl

end MarkdownReview
