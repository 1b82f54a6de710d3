import MarkdownReview.Proofs.Heading.Contents
import MarkdownReview.Proofs.Text.Lowercase
/-!
A slug is its own slug. What is left of a text is lowered, kept and no blank, and a text of such
characters is left as it is.
-/

namespace MarkdownReview.Slug

/-- A character that slugs are made of: it is in lower case, a slug keeps it, and it is no blank. -/
structure Holds (unicode : Bool) (c : Char) : Prop where
  lowered : Text.IsLowered c
  kept : keeps unicode c = true
  visible : Text.isBlank c = false

variable {unicode : Bool} {text : Text} {c : Char}

theorem holds_hyphen (unicode : Bool) : Holds unicode hyphen := by
  refine ⟨⟨by decide, by decide⟩, ?_, by decide⟩
  rw [keeps, beq_self_eq_true, Bool.or_true, Bool.true_or]

theorem holds_of_mem_ofText (member : c ∈ ofText unicode text) : Holds unicode c := by
  rcases Text.mem_joinBlanks member with rfl | ⟨found, visible⟩
  · exact holds_hyphen unicode
  · obtain ⟨lowered, kept⟩ := List.mem_filter.mp found
    exact ⟨Text.isLowered_of_mem_lower lowered, kept, visible⟩

theorem ofText_eq_self_iff : ofText unicode text = text ↔ ∀ c ∈ text, Holds unicode c := by
  constructor
  · intro same c member
    rw [← same] at member
    exact holds_of_mem_ofText member
  · intro holds
    have lowered := Text.lower_eq_self fun c member => (holds c member).lowered
    have kept := List.filter_eq_self.mpr fun c member => (holds c member).kept
    rw [ofText, lowered, kept, Text.joinBlanks_eq_self fun c member => (holds c member).visible]

/-- Making a slug of a slug changes nothing, whatever scripts it keeps. -/
theorem ofText_ofText (unicode : Bool) (text : Text) :
    ofText unicode (ofText unicode text) = ofText unicode text :=
  ofText_eq_self_iff.mpr fun _ => holds_of_mem_ofText

-- A final sigma stays one at the end of the slug, and the dot of a dotted capital is not kept.
example : ofText true "ΟΔΟΣ \u0130 1".toList = "οδο\u03C2-i-1".toList := by decide +kernel

end MarkdownReview.Slug

/-!
The characters of anchors. A slug has characters of a small alphabet only, or word characters and
hyphens where other scripts are kept; so have the slug of an unnamed heading and the suffix of an
anchor that was taken. No anchor is hyphens alone.
-/

namespace MarkdownReview

namespace Slug

/-- The characters of anchors: word characters of every script and the hyphen, or the small letters
of one script, digits, the low line, the hyphen and ideographs. -/
def InAlphabet : (unicode : Bool) → Char → Prop
  | true, c => Text.isWord c = true ∨ c = '-'
  | false, c => ('a' ≤ c ∧ c ≤ 'z') ∨ ('0' ≤ c ∧ c ≤ '9') ∨ c = '_' ∨ c = '-' ∨
      ('\u4E00' ≤ c ∧ c ≤ '\u9FA5')

variable {unicode : Bool} {c : Char}

theorem isWord_of_mem_range (range : Nat × Nat) (member : range ∈ Text.alphanumericRanges)
    (least : range.1 ≤ c.toNat) (most : c.toNat ≤ range.2) : Text.isWord c = true := by
  have alphanumeric : Text.isAlphanumeric c = true :=
    (Text.Ranges.has_iff Text.alphanumericRanges_ascends).mpr ⟨range, member, least, most⟩
  rw [Text.isWord, alphanumeric, Bool.or_true]

theorem inAlphabet_true (small : InAlphabet false c) : InAlphabet true c := by
  rcases small with letter | digit | lowLine | isHyphen | ideograph
  · exact Or.inl (isWord_of_mem_range (0x61, 0x7A) (by decide) letter.1 letter.2)
  · exact Or.inl (isWord_of_mem_range (0x30, 0x39) (by decide) digit.1 digit.2)
  · exact Or.inl (by rw [lowLine]; rfl)
  · exact Or.inr isHyphen
  · have counted : Text.isIdeograph c = true := by
      rw [Text.isIdeograph, Bool.and_eq_true, decide_eq_true_eq, decide_eq_true_eq]
      exact ideograph
    exact Or.inl (by rw [Text.isWord, counted, Bool.or_true, Bool.true_or])

theorem isBlank_of_inAlphabet (member : InAlphabet unicode c) : Text.isBlank c = false := by
  have wide : InAlphabet true c := by
    cases unicode with
    | false => exact inAlphabet_true member
    | true => exact member
  rcases wide with word | isHyphen
  · by_contra blank
    rw [Bool.not_eq_false] at blank
    rw [Text.isWord_of_isBlank blank] at word
    cases word
  · rw [isHyphen]
    decide

theorem inAlphabet_hyphen (unicode : Bool) : InAlphabet unicode hyphen := by
  cases unicode with
  | false => exact Or.inr (Or.inr (Or.inr (Or.inl rfl)))
  | true => exact Or.inr rfl

theorem inAlphabet_of_false (small : InAlphabet false c) (unicode : Bool) :
    InAlphabet unicode c := by
  cases unicode with
  | false => exact small
  | true => exact inAlphabet_true small

theorem inAlphabet_of_isDigit (digit : c.isDigit = true) (unicode : Bool) :
    InAlphabet unicode c := by
  change (decide ('0' ≤ c) && decide (c ≤ '9')) = true at digit
  rw [Bool.and_eq_true, decide_eq_true_eq, decide_eq_true_eq] at digit
  exact inAlphabet_of_false (Or.inr (Or.inl digit)) unicode

theorem inAlphabet_of_mem_decimal {number : Nat} (digit : c ∈ Text.decimal number)
    (unicode : Bool) : InAlphabet unicode c :=
  inAlphabet_of_isDigit (Nat.isDigit_of_mem_toDigits (by decide) (by decide) digit) unicode

theorem not_isUpper_of_isLowered (lowered : Text.IsLowered c) : ¬c.isUpper = true := by
  have capitals : ∀ n ∈ List.range' 0x41 26, Text.lowerChar (Char.ofNat n) ≠ Char.ofNat n := by
    decide +kernel
  intro upper
  have bounds : 0x41 ≤ c.toNat ∧ c.toNat ≤ 0x5A := of_decide_eq_true upper
  have inside : c.toNat ∈ List.range' 0x41 26 := List.mem_range'_1.mpr ⟨bounds.1, by omega⟩
  have different := capitals c.toNat inside
  rw [Char.ofNat_toNat] at different
  exact different lowered.fixed

theorem isAsciiWord_iff :
    isAsciiWord c = true ↔
      c = '_' ∨ (c.isUpper = true ∨ ('a' ≤ c ∧ c ≤ 'z')) ∨ c.isDigit = true := by
  change (c == '_' ||
    ((c.isUpper || (decide ('a' ≤ c) && decide (c ≤ 'z'))) || c.isDigit)) = true ↔ _
  simp only [Bool.or_eq_true, Bool.and_eq_true, decide_eq_true_eq, beq_iff_eq]

theorem inAlphabet_of_holds (holds : Holds unicode c) : InAlphabet unicode c := by
  obtain ⟨lowered, kept, visible⟩ := holds
  simp only [keeps, visible, Bool.false_or, Bool.or_eq_true, beq_iff_eq] at kept
  rcases kept with isHyphen | kept
  · rw [isHyphen]
    exact inAlphabet_hyphen unicode
  cases unicode with
  | true => exact Or.inl kept
  | false =>
    rw [if_neg Bool.false_ne_true, Bool.or_eq_true] at kept
    rcases kept with word | ideograph
    · rcases isAsciiWord_iff.mp word with lowLine | (upper | letter) | digit
      · exact Or.inr (Or.inr (Or.inl lowLine))
      · exact absurd upper (not_isUpper_of_isLowered lowered)
      · exact Or.inl letter
      · exact inAlphabet_of_isDigit digit false
    · rw [Text.isIdeograph, Bool.and_eq_true, decide_eq_true_eq, decide_eq_true_eq] at ideograph
      exact Or.inr (Or.inr (Or.inr (Or.inr ideograph)))

end Slug

namespace Anchor

open Slug (InAlphabet)

variable {unicode : Bool} {slug anchor : Text} {slugs : List Text}

/-- Of characters that anchors are made of, and not of hyphens alone. -/
structure IsWellSpelled (unicode : Bool) (text : Text) : Prop where
  letters : ∀ c ∈ text, InAlphabet unicode c
  named : Slug.isVoid text = false

theorem IsWellSpelled.candidate (spelled : IsWellSpelled unicode slug) (number : Nat) :
    IsWellSpelled unicode (candidate slug number) := by
  cases number with
  | zero => exact spelled
  | succ number =>
    refine ⟨?_, ?_⟩
    · intro c member
      rcases List.mem_append.mp member with inSlug | inSuffix
      · exact spelled.letters c inSlug
      · rcases List.mem_cons.mp inSuffix with rfl | digit
        · exact Slug.inAlphabet_hyphen unicode
        · exact Slug.inAlphabet_of_mem_decimal digit unicode
    · have named := spelled.named
      rw [Slug.isVoid] at named
      rw [Slug.isVoid, Anchor.candidate, List.all_append, named, Bool.false_and]

theorem isWellSpelled_unnamedSlug (unicode : Bool) (number : Nat) :
    IsWellSpelled unicode (Pool.unnamedSlug number) := by
  refine ⟨?_, rfl⟩
  intro c member
  rcases List.mem_append.mp member with inWord | digit
  · have small : "heading-".toList.all (fun c => ('a' ≤ c ∧ c ≤ 'z') ∨ c = '-') = true := by decide
    rcases of_decide_eq_true (List.all_eq_true.mp small c inWord) with letter | isHyphen
    · exact Slug.inAlphabet_of_false (Or.inl letter) unicode
    · rw [isHyphen]
      exact Slug.inAlphabet_hyphen unicode
  · exact Slug.inAlphabet_of_mem_decimal digit unicode

theorem Pool.isWellSpelled_give (pool : Pool) (letters : ∀ c ∈ slug, InAlphabet unicode c) :
    IsWellSpelled unicode (pool.give slug).1 := by
  have named : IsWellSpelled unicode (pool.named slug).1 := by
    unfold Pool.named
    split
    next => exact isWellSpelled_unnamedSlug unicode _
    next notVoid => exact ⟨letters, Bool.eq_false_iff.mpr notVoid⟩
  exact named.candidate _

theorem Pool.isWellSpelled_of_mem_giveAll {pool : Pool}
    (letters : ∀ slug ∈ slugs, ∀ c ∈ slug, InAlphabet unicode c)
    (member : anchor ∈ pool.giveAll slugs) : IsWellSpelled unicode anchor := by
  induction slugs generalizing pool with
  | nil => cases member
  | cons slug rest ih =>
    rcases List.mem_cons.mp member with rfl | later
    · exact pool.isWellSpelled_give (letters slug (List.mem_cons_self ..))
    · exact ih (fun other inRest => letters other (List.mem_cons_of_mem _ inRest)) later

end Anchor

namespace Contents

open Slug (InAlphabet)

/-- An anchor is no row of hyphens, has no blank, and has characters of its alphabet only. -/
theorem anchors_inAlphabet (settings : Settings) (document : Text) :
    ∀ heading ∈ (ofDocument settings.unicodeAnchors document).headings,
      (∃ c ∈ heading.anchor, c ≠ '-') ∧ (∀ c ∈ heading.anchor, Text.isBlank c = false) ∧
      ∀ c ∈ heading.anchor, InAlphabet settings.unicodeAnchors c := by
  intro heading member
  have isAnchor := List.mem_map_of_mem (f := (·.anchor)) member
  rw [ofDocument, ofLines, anchors_headingsFrom] at isAnchor
  have spelled : Anchor.IsWellSpelled settings.unicodeAnchors heading.anchor := by
    refine Anchor.Pool.isWellSpelled_of_mem_giveAll ?_ isAnchor
    intro slug isSlug c inSlug
    obtain ⟨other, -, rfl⟩ := List.mem_map.mp isSlug
    exact Slug.inAlphabet_of_holds (Slug.holds_of_mem_ofText inSlug)
  obtain ⟨c, inAnchor, different⟩ := List.all_eq_false.mp spelled.named
  refine ⟨⟨c, inAnchor, ?_⟩, ?_, spelled.letters⟩
  · intro isHyphen
    exact different (beq_iff_eq.mpr isHyphen)
  · exact fun d inside => Slug.isBlank_of_inAlphabet (spelled.letters d inside)

/-- After two headings without a slug of their own, the third has a sign that is lowered to a letter
of the small alphabet, and two blanks that meet where the letter between them is dropped. -/
theorem anchors_inAlphabet_unnamed :
    let document := "# -\n# !\n# \u212A\u3000\u00C9 \u5B89".toList
    let contents := ofDocument false document
    let heading : Heading :=
      ⟨"k-\u5B89".toList, "\u212A\u3000\u00C9 \u5B89".toList, "\u212A\u3000\u00C9 \u5B89".toList,
        1, 2, 3⟩
    contents.headings[2]? = some heading ∧ (∃ c ∈ heading.anchor, c ≠ '-') ∧
      (∀ c ∈ heading.anchor, Text.isBlank c = false) ∧
      ∀ c ∈ heading.anchor, InAlphabet false c := by
  intro document contents heading
  have third : contents.headings[2]? = some heading := by decide +kernel
  exact ⟨third, anchors_inAlphabet {} document heading (List.mem_of_getElem? third)⟩

end Contents
end MarkdownReview
