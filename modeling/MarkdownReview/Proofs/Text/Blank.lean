import Mathlib.Data.List.TakeWhile
import MarkdownReview.Text.Word
/-!
Blanks are no word characters, and what trimming leaves of a text that starts with a visible
character, or has one at both ends.
-/

namespace MarkdownReview.Text

theorem isWord_of_isBlank {c : Char} (blank : isBlank c = true) : isWord c = false := by
  have apart : ∀ range ∈ blankRanges, ∀ n ∈ List.range' range.1 (range.2 + 1 - range.1),
      (n == '_'.toNat || (0x4E00 ≤ n && n ≤ 0x9FA5) || alphanumericRanges.has n) = false := by
    decide +kernel
  obtain ⟨range, member, least, most⟩ := (Ranges.has_iff blankRanges_ascends).mp blank
  have inside := List.mem_range'_1.mpr
    (⟨least, by omega⟩ : range.1 ≤ c.toNat ∧ c.toNat < range.1 + (range.2 + 1 - range.1))
  have outside := apart range member c.toNat inside
  simp only [Bool.or_eq_false_iff] at outside
  obtain ⟨⟨notLow, notIdeograph⟩, notAlphanumeric⟩ := outside
  have different : c ≠ '_' := by
    rintro rfl
    simp at notLow
  simp only [isWord, isIdeograph, isAlphanumeric, notIdeograph, notAlphanumeric, Bool.or_false]
  exact beq_eq_false_iff_ne.mpr different

theorem dropWhile_eq_self {belongs : Char → Bool} {text : Text}
    (starts : ∀ c ∈ text.head?, belongs c = false) : text.dropWhile belongs = text := by
  cases text with
  | nil => rfl
  | cons c rest => exact List.dropWhile_cons_of_neg (by simp [starts c rfl])

theorem trim_eq_self {text : Text} (starts : ∀ c ∈ text.head?, isBlank c = false)
    (ends : ∀ c ∈ text.getLast?, isBlank c = false) : trim text = text := by
  rw [← List.head?_reverse] at ends
  rw [trim, trimStart, dropWhile_eq_self starts, trimEnd, dropWhile_eq_self ends,
    List.reverse_reverse]

theorem exists_trim (text : Text) :
    ∃ lead tail, lead ++ trim text ++ tail = text ∧ (∀ c ∈ lead, isBlank c = true) ∧
      ∀ c ∈ tail, isBlank c = true := by
  refine ⟨text.takeWhile isBlank, ((trimStart text).reverse.takeWhile isBlank).reverse, ?_,
    fun c => List.mem_takeWhile_imp, ?_⟩
  · rw [List.append_assoc, trim, trimEnd, ← List.reverse_append, List.takeWhile_append_dropWhile,
      List.reverse_reverse, trimStart, List.takeWhile_append_dropWhile]
  · intro c member
    exact List.mem_takeWhile_imp (List.mem_reverse.mp member)

theorem visible_of_mem_getLast?_trim {text : Text} :
    ∀ c ∈ (trim text).getLast?, isBlank c = false := by
  intro c last
  have outside := List.head?_dropWhile_not isBlank (trimStart text).reverse
  rw [trim, trimEnd, List.getLast?_reverse] at last
  rw [last] at outside
  simpa using outside

theorem trim_cons {c : Char} (visible : isBlank c = false) (rest : Text) :
    ∃ tail, trim (c :: rest) = c :: tail := by
  have start : trimStart (c :: rest) = c :: rest := dropWhile_eq_self (by simp [visible])
  rw [trim, start, trimEnd, List.reverse_cons, List.dropWhile_append]
  split
  · refine ⟨[], ?_⟩
    rw [List.dropWhile_cons_of_neg (by simp [visible])]
    rfl
  · exact ⟨_, List.reverse_append⟩

section Join

variable {mark c : Char} {text : Text}

theorem mem_joinBlanks {inRun : Bool} (member : c ∈ joinBlanks mark inRun text) :
    c = mark ∨ c ∈ text ∧ isBlank c = false := by
  induction text generalizing inRun with
  | nil => cases member
  | cons first rest ih =>
    have later : ∀ {inRun}, c ∈ joinBlanks mark inRun rest →
        c = mark ∨ c ∈ first :: rest ∧ isBlank c = false :=
      fun within => (ih within).imp_right fun found => ⟨List.mem_cons_of_mem _ found.1, found.2⟩
    rw [joinBlanks] at member
    split at member
    next =>
      split at member
      next => exact later member
      next => exact (List.mem_cons.mp member).elim Or.inl later
    next visible =>
      rcases List.mem_cons.mp member with rfl | within
      · exact Or.inr ⟨List.mem_cons_self .., Bool.eq_false_iff.mpr visible⟩
      · exact later within

theorem joinBlanks_eq_self (visible : ∀ c ∈ text, isBlank c = false) (inRun : Bool) :
    joinBlanks mark inRun text = text := by
  induction text generalizing inRun with
  | nil => rfl
  | cons c rest ih =>
    have later := ih fun d member => visible d (List.mem_cons_of_mem _ member)
    rw [joinBlanks, visible c (List.mem_cons_self ..), if_neg Bool.false_ne_true, later]

theorem filter_joinBlanks {stays : Char → Bool} (apart : ∀ c, isBlank c = true → stays c = false)
    (isMark : isBlank mark = true) (inRun : Bool) (text : Text) :
    (joinBlanks mark inRun text).filter stays = text.filter stays := by
  induction text generalizing inRun with
  | nil => rfl
  | cons c rest ih =>
    rw [joinBlanks]
    cases blank : isBlank c with
    | true =>
      rw [if_pos rfl, List.filter_cons_of_neg (by simp [apart c blank])]
      split
      · exact ih true
      · rw [List.filter_cons_of_neg (by simp [apart mark isMark]), ih]
    | false => rw [if_neg Bool.false_ne_true, List.filter_cons, List.filter_cons, ih]

end Join

end MarkdownReview.Text

/-!
What is left of a text when some of its characters are taken out, all of one kind. The characters
of any other kind are all left, in their order and with the same neighbours among themselves.
-/

namespace MarkdownReview.Text

/-- What is left when some of the characters that are `gone` are taken out. -/
inductive Thinned (gone : Char → Prop) : (text left : Text) → Prop
  | nil : Thinned gone [] []
  | keep {text left : Text} (c : Char) :
      Thinned gone text left → Thinned gone (c :: text) (c :: left)
  | drop {text left : Text} {c : Char} :
      gone c → Thinned gone text left → Thinned gone (c :: text) left

namespace Thinned

variable {gone : Char → Prop} {text left rest : Text}

theorem refl (gone : Char → Prop) (text : Text) : Thinned gone text text := by
  induction text with
  | nil => exact .nil
  | cons c text ih => exact .keep c ih

theorem trans (first : Thinned gone text left) (second : Thinned gone left rest) :
    Thinned gone text rest := by
  induction first generalizing rest with
  | nil => exact second
  | keep c _ ih =>
    cases second with
    | keep _ second => exact .keep c (ih second)
    | drop isGone second => exact .drop isGone (ih second)
  | drop isGone _ ih => exact .drop isGone (ih second)

theorem append {later leftLater : Text} (first : Thinned gone text left)
    (second : Thinned gone later leftLater) : Thinned gone (text ++ later) (left ++ leftLater) := by
  induction first with
  | nil => exact second
  | keep c _ ih => exact .keep c ih
  | drop isGone _ ih => exact .drop isGone ih

theorem of_all_gone (allGone : ∀ c ∈ text, gone c) : Thinned gone text [] := by
  induction text with
  | nil => exact .nil
  | cons c text ih =>
    have later := ih fun d member => allGone d (List.mem_cons_of_mem _ member)
    exact .drop (allGone c (List.mem_cons_self ..)) later

theorem reverse (thinned : Thinned gone text left) : Thinned gone text.reverse left.reverse := by
  induction thinned with
  | nil => exact .nil
  | keep c _ ih =>
    rw [List.reverse_cons, List.reverse_cons]
    exact ih.append (refl gone [c])
  | @drop text left c isGone _ ih =>
    have last : Thinned gone [c] [] := .drop isGone .nil
    have appended := ih.append last
    rwa [List.append_nil, ← List.reverse_cons] at appended

theorem sublist (thinned : Thinned gone text left) : left.Sublist text := by
  induction thinned with
  | nil => exact .slnil
  | keep c _ ih => exact .cons_cons c ih
  | drop _ _ ih => exact .cons _ ih

theorem filter_eq {stays : Char → Bool} (apart : ∀ c, gone c → stays c = false)
    (thinned : Thinned gone text left) : left.filter stays = text.filter stays := by
  induction thinned with
  | nil => rfl
  | keep c _ ih => rw [List.filter_cons, List.filter_cons, ih]
  | drop isGone _ ih =>
    rw [ih, List.filter_cons_of_neg]
    rw [apart _ isGone]
    exact Bool.false_ne_true

theorem head?_eq {c : Char} (thinned : Thinned gone text left) (first : text.head? = some c)
    (stays : ¬gone c) : left.head? = some c := by
  cases thinned with
  | nil => exact first
  | keep _ _ => exact first
  | drop isGone _ =>
    obtain rfl := Option.some.inj first
    exact absurd isGone stays

theorem dropWhile {belongs : Char → Bool} (areGone : ∀ c, belongs c = true → gone c)
    (text : Text) : Thinned gone text (text.dropWhile belongs) := by
  have taken : Thinned gone (text.takeWhile belongs) [] :=
    of_all_gone fun c member => areGone c (List.mem_takeWhile_imp member)
  have whole := taken.append (refl gone (text.dropWhile belongs))
  rwa [List.takeWhile_append_dropWhile] at whole

theorem trimStart (blanksGone : ∀ c, isBlank c = true → gone c) (text : Text) :
    Thinned gone text (trimStart text) :=
  dropWhile blanksGone text

theorem trim (blanksGone : ∀ c, isBlank c = true → gone c) (text : Text) :
    Thinned gone text (trim text) := by
  have atEnd := (dropWhile blanksGone (Text.trimStart text).reverse).reverse
  rw [List.reverse_reverse] at atEnd
  exact (trimStart blanksGone text).trans atEnd

end Thinned
end MarkdownReview.Text
