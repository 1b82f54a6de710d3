import Mathlib.Data.List.Induction
import Mathlib.Data.Nat.Find
import MarkdownReview.Heading.Contents
import MarkdownReview.Proofs.Comparison
/-!
The heading that is being read is the last one that is reached, however the places are ordered. A
line that reaches at least the same headings never leads back to an earlier one.
-/

namespace MarkdownReview.Heading

variable {headings : List Heading} {heading : Heading} {places : List (Option Float)}
  {place : Option Float} {line : Float} {i : Nat}

/-- The heading of this number has a place, and the line comes down to it. -/
def IsReached (places : List (Option Float)) (line : Float) (i : Nat) : Prop :=
  ∃ top, places[i]? = some (some top) ∧ top ≤ line

structure IsLastReached (places : List (Option Float)) (line : Float) (i : Nat) : Prop where
  reached : IsReached places line i
  last : ∀ j, IsReached places line j → j ≤ i

theorem reached_eq_true_iff : reached line place = true ↔ ∃ top, place = some top ∧ top ≤ line := by
  cases place with
  | none => simp [reached]
  | some top => simp [reached]

theorem IsReached.lt_length (isReached : IsReached places line i) : i < places.length := by
  obtain ⟨top, stands, -⟩ := isReached
  exact (List.getElem?_eq_some_iff.mp stands).1

theorem IsReached.of_le {further : Float} (isReached : IsReached places line i)
    (below : line ≤ further) : IsReached places further i := by
  obtain ⟨top, stands, above⟩ := isReached
  exact ⟨top, stands, Comparison.le_trans above below⟩

theorem isReached_concat_iff :
    IsReached (places ++ [place]) line i ↔
      IsReached places line i ∨ i = places.length ∧ reached line place = true := by
  rcases lt_trichotomy i places.length with inside | rfl | beyond
  · have same : (places ++ [place])[i]? = places[i]? := List.getElem?_append_left inside
    rw [IsReached, same]
    exact (or_iff_left fun last => inside.ne last.1).symm
  · have added : (places ++ [place])[places.length]? = some place := List.getElem?_concat_length
    rw [IsReached, added, reached_eq_true_iff]
    simp [IsReached]
  · have outside : (places ++ [place])[i]? = none := by
      apply List.getElem?_eq_none
      rw [List.length_append, List.length_singleton]
      exact beyond
    rw [IsReached, outside]
    apply iff_of_false
    · rintro ⟨top, stands, -⟩
      cases stands
    · rintro (isReached | ⟨rfl, -⟩)
      · exact lt_asymm beyond isReached.lt_length
      · exact lt_irrefl _ beyond

theorem exists_isLastReached (isReached : IsReached places line i) :
    ∃ j, i ≤ j ∧ IsLastReached places line j := by
  classical
  have inside : i ≤ places.length := isReached.lt_length.le
  refine ⟨Nat.findGreatest (IsReached places line) places.length,
    Nat.le_findGreatest inside isReached, Nat.findGreatest_spec inside isReached, ?_⟩
  intro j later
  exact Nat.le_findGreatest later.lt_length.le later

theorem isLastReached_concat_of_reached (hit : reached line place = true) :
    IsLastReached (places ++ [place]) line i ↔ i = places.length := by
  have added : IsReached (places ++ [place]) line places.length :=
    isReached_concat_iff.mpr (.inr ⟨rfl, hit⟩)
  have bounded : ∀ j, IsReached (places ++ [place]) line j → j ≤ places.length := by
    intro j later
    have inside := later.lt_length
    rw [List.length_append, List.length_singleton] at inside
    exact Nat.le_of_lt_succ inside
  constructor
  · intro isLast
    exact le_antisymm (bounded i isLast.reached) (isLast.last _ added)
  · rintro rfl
    exact ⟨added, bounded⟩

theorem isLastReached_concat_of_not_reached (miss : ¬reached line place = true) :
    IsLastReached (places ++ [place]) line i ↔ IsLastReached places line i := by
  have same : ∀ j, IsReached (places ++ [place]) line j ↔ IsReached places line j := by
    intro j
    rw [isReached_concat_iff]
    exact or_iff_left fun last => miss last.2
  constructor
  · intro isLast
    exact ⟨(same i).mp isLast.reached, fun j later => isLast.last j ((same j).mpr later)⟩
  · intro isLast
    exact ⟨(same i).mpr isLast.reached, fun j later => isLast.last j ((same j).mp later)⟩

theorem firstReached?_concat (headings : List Heading) (places : List (Option Float))
    (heading : Heading) (place : Option Float) (line : Float) :
    firstReached? line ((headings ++ [heading]).reverse.zip (places ++ [place]).reverse) =
      if reached line place then some heading.anchor
      else firstReached? line (headings.reverse.zip places.reverse) := by
  rw [List.reverse_append, List.reverse_append]
  rfl

/-- The walk from the end stops at the last heading that is reached. -/
theorem firstReached?_eq_some_iff {anchor : Text} (aligned : places.length = headings.length) :
    firstReached? line (headings.reverse.zip places.reverse) = some anchor ↔
      ∃ i heading, IsLastReached places line i ∧ headings[i]? = some heading ∧
        heading.anchor = anchor := by
  induction places using List.reverseRecOn generalizing headings with
  | nil =>
    rw [List.eq_nil_of_length_eq_zero aligned.symm]
    apply iff_of_false
    · exact (Option.some_ne_none _).symm
    · rintro ⟨i, heading, isLast, -⟩
      exact absurd isLast.reached.lt_length (Nat.not_lt_zero i)
  | append_singleton places place ih =>
    rw [List.length_append, List.length_singleton] at aligned
    obtain ⟨earlier, heading, rfl⟩ : ∃ earlier heading, headings = earlier ++ [heading] := by
      rcases List.eq_nil_or_concat headings with rfl | ⟨earlier, heading, rfl⟩
      · cases aligned
      · exact ⟨earlier, heading, List.concat_eq_append⟩
    rw [List.length_append, List.length_singleton, Nat.add_right_cancel_iff] at aligned
    rw [firstReached?_concat]
    by_cases hit : reached line place = true
    · rw [if_pos hit, Option.some_inj]
      have own : (earlier ++ [heading])[places.length]? = some heading := by
        rw [aligned]
        exact List.getElem?_concat_length
      constructor
      · intro same
        exact ⟨places.length, heading, (isLastReached_concat_of_reached hit).mpr rfl, own, same⟩
      · rintro ⟨i, other, isLast, stands, same⟩
        rw [(isLastReached_concat_of_reached hit).mp isLast, own] at stands
        cases stands
        exact same
    · rw [if_neg hit, ih aligned]
      apply exists_congr
      intro i
      apply exists_congr
      intro other
      rw [isLastReached_concat_of_not_reached hit]
      apply and_congr_right
      intro isLast
      rw [List.getElem?_append_left (aligned ▸ isLast.reached.lt_length)]

variable {offset : Float} {lookahead : Option Float}

theorem current?_eq_some_iff {anchor : Text} :
    current? headings places offset lookahead = some anchor ↔
      places.length = headings.length ∧
        ∃ i heading, IsLastReached places (readingLine offset lookahead) i ∧
          headings[i]? = some heading ∧ heading.anchor = anchor := by
  unfold current?
  split
  next apart =>
    apply iff_of_false
    · exact (Option.some_ne_none _).symm
    · exact fun aligned => apart aligned.1
  next aligned =>
    rw [not_not] at aligned
    rw [firstReached?_eq_some_iff aligned]
    exact (and_iff_right aligned).symm

theorem exists_current (aligned : places.length = headings.length)
    (isReached : IsReached places (readingLine offset lookahead) i) :
    ∃ j heading, i ≤ j ∧ IsLastReached places (readingLine offset lookahead) j ∧
      headings[j]? = some heading ∧
      current? headings places offset lookahead = some heading.anchor := by
  obtain ⟨j, further, isLast⟩ := exists_isLastReached isReached
  have inside : j < headings.length := aligned ▸ isLast.reached.lt_length
  have stands : headings[j]? = some headings[j] := List.getElem?_eq_getElem inside
  exact ⟨j, headings[j], further, isLast, stands,
    current?_eq_some_iff.mpr ⟨aligned, j, headings[j], isLast, stands, rfl⟩⟩

theorem current?_eq_none_iff :
    current? headings places offset lookahead = none ↔
      places.length ≠ headings.length ∨ ∀ i, ¬IsReached places (readingLine offset lookahead) i := by
  constructor
  · intro nothing
    by_contra reading
    obtain ⟨aligned, reached⟩ := not_or.mp reading
    push Not at aligned reached
    obtain ⟨i, isReached⟩ := reached
    obtain ⟨j, heading, -, -, -, found⟩ := exists_current aligned isReached
    rw [nothing] at found
    cases found
  · intro nothing
    by_contra found
    obtain ⟨anchor, same⟩ := Option.ne_none_iff_exists'.mp found
    obtain ⟨aligned, i, heading, isLast, -⟩ := current?_eq_some_iff.mp same
    rcases nothing with apart | unreached
    · exact apart aligned
    · exact unreached i isLast.reached

/-- Nothing is being read where places and headings do not go together or nothing is reached, and
otherwise the last heading that is reached. Where everything that is reached at one offset is
reached at another one too, that heading is not followed by an earlier one. -/
theorem current?_last (headings : List Heading) (places : List (Option Float)) (offset : Float)
    (lookahead : Option Float) :
    (current? headings places offset lookahead = none ↔
      places.length ≠ headings.length ∨
        ∀ i, ¬IsReached places (readingLine offset lookahead) i) ∧
    (∀ anchor, current? headings places offset lookahead = some anchor ↔
      places.length = headings.length ∧
        ∃ i heading, IsLastReached places (readingLine offset lookahead) i ∧
          headings[i]? = some heading ∧ heading.anchor = anchor) ∧
    ∀ further ahead,
      (∀ i, IsReached places (readingLine offset lookahead) i →
        IsReached places (readingLine further ahead) i) →
      ∀ anchor, current? headings places offset lookahead = some anchor →
        ∃ i j heading later, i ≤ j ∧
          IsLastReached places (readingLine offset lookahead) i ∧
          headings[i]? = some heading ∧ heading.anchor = anchor ∧
          IsLastReached places (readingLine further ahead) j ∧
          headings[j]? = some later ∧
          current? headings places further ahead = some later.anchor := by
  refine ⟨current?_eq_none_iff, fun anchor => current?_eq_some_iff, ?_⟩
  intro further ahead kept anchor reading
  obtain ⟨aligned, i, heading, isLast, stands, same⟩ := current?_eq_some_iff.mp reading
  obtain ⟨j, later, onward, isLater, standsLater, found⟩ :=
    exists_current aligned (kept i isLast.reached)
  exact ⟨i, j, heading, later, onward, isLast, stands, same, isLater, standsLater, found⟩

/-- The places are in no order, one heading is not shown and one place is no number. With the usual
lookahead the second heading is read at the top of the view, and the third one further down. -/
theorem current?_last_unordered :
    let headings : List Heading :=
      [⟨"a".toList, "A".toList, "A".toList, 1, 0, 1⟩, ⟨"b".toList, "B".toList, "B".toList, 2, 1, 3⟩,
       ⟨"c".toList, "C".toList, "C".toList, 2, 2, 5⟩, ⟨"d".toList, "D".toList, "D".toList, 2, 3, 7⟩,
       ⟨"e".toList, "E".toList, "E".toList, 2, 4, 9⟩]
    let places : List (Option Float) := [some 60.0, some 40.0, some 300.0, none, some (0.0 / 0.0)]
    current? headings places 0.0 = some "b".toList ∧
      (∀ i, IsReached places (readingLine 0.0 none) i →
        IsReached places (readingLine 250.0 none) i) ∧
      ∃ i j heading later, i ≤ j ∧
        IsLastReached places (readingLine 0.0 none) i ∧
        headings[i]? = some heading ∧ heading.anchor = "b".toList ∧
        IsLastReached places (readingLine 250.0 none) j ∧
        headings[j]? = some later ∧
        current? headings places 250.0 none = some later.anchor := by
  intro headings places
  have reading : current? headings places 0.0 = some "b".toList := by decide
  have below : readingLine 0.0 none ≤ readingLine 250.0 none := by decide
  have kept : ∀ i, IsReached places (readingLine 0.0 none) i →
      IsReached places (readingLine 250.0 none) i :=
    fun i isReached => isReached.of_le below
  obtain ⟨-, -, onward⟩ := current?_last headings places 0.0 none
  exact ⟨reading, kept, onward 250.0 none kept _ reading⟩

end MarkdownReview.Heading
