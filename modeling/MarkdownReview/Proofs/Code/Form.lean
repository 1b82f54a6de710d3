import Mathlib.Data.List.Basic
import MarkdownReview.Code
/-!
Where statement forms stand on a line. A form takes at least one character and none past the end of
the line, and the match found on a line shares no character with its inline code.
-/

namespace MarkdownReview.Code

open Document (Span)

def Piece.least : Piece → Nat
  | edge => 0
  | words alternatives => (alternatives.map List.length).min?.getD 0
  | run least _ => least
  | one _ => 1

theorem Piece.width?_bounds {piece : Piece} {before : Option Char} {ahead : Text} {width : Nat}
    (taken : piece.width? before ahead = some width) :
    piece.least ≤ width ∧ width ≤ ahead.length := by
  cases piece with
  | edge =>
    simp only [Piece.width?] at taken
    split at taken
    · cases taken
      exact ⟨Nat.le_refl 0, Nat.zero_le _⟩
    · cases taken
  | words alternatives =>
    simp only [Piece.width?] at taken
    obtain ⟨word, found, rfl⟩ := Option.map_eq_some_iff.mp taken
    have standing := List.find?_some found
    have member := List.mem_map_of_mem (f := List.length) (List.mem_of_find?_eq_some found)
    refine ⟨?_, ?_⟩
    · cases least : (alternatives.map List.length).min? with
      | none =>
        rw [List.min?_eq_none_iff] at least
        rw [least] at member
        exact absurd member List.not_mem_nil
      | some bound =>
        have isLeast := (List.min?_eq_some_iff.mp least).2 word.length member
        simpa only [Piece.least, least, Option.getD_some] using isLeast
    · exact (List.isPrefixOf_iff_prefix.mp standing).length_le
  | run least belongs =>
    simp only [Piece.width?] at taken
    split at taken
    · rename_i enough
      cases taken
      exact ⟨enough, (List.takeWhile_prefix belongs).length_le⟩
    · cases taken
  | one choices =>
    simp only [Piece.width?] at taken
    split at taken
    · rename_i chosen
      cases taken
      cases ahead with
      | nil => simp at chosen
      | cons c rest => exact ⟨Nat.le_refl 1, Nat.succ_pos _⟩
    · cases taken

def leastWidth : List Piece → Nat
  | [] => 0
  | piece :: rest => piece.least + leastWidth rest

theorem pieces?_bounds {pieces : List Piece} {before : Option Char} {ahead : Text} {width : Nat}
    (taken : pieces? pieces before ahead = some width) :
    leastWidth pieces ≤ width ∧ width ≤ ahead.length := by
  induction pieces generalizing before ahead width with
  | nil =>
    cases taken
    exact ⟨Nat.le_refl 0, Nat.zero_le _⟩
  | cons piece rest ih =>
    rw [pieces?] at taken
    cases first : piece.width? before ahead with
    | none => simp [first] at taken
    | some here =>
      simp only [first] at taken
      obtain ⟨later, read, rfl⟩ := Option.map_eq_some_iff.mp taken
      have hereBounds := Piece.width?_bounds first
      have laterBounds := ih read
      rw [List.length_drop] at laterBounds
      rw [leastWidth]
      omega

theorem leastWidth_pos : ∀ form ∈ forms, 0 < leastWidth form.pieces := by
  simp only [forms, List.forall_mem_cons]
  decide

namespace Form

/-- Each place of a form has text before it, and the form stands right ahead there. -/
theorem standing_of_mem_placesFrom {form : Form} {skip offset : Nat} {before : Option Char}
    {text : Text} {place : Span} (member : place ∈ form.placesFrom skip offset before text) :
    ∃ passed ahead, text = passed ++ ahead ∧ place.start = offset + passed.length ∧
      form.width? (passed.getLast?.or before) ahead = some (place.stop - place.start) ∧
      place.start ≤ place.stop := by
  induction text generalizing skip offset before with
  | nil =>
    rw [placesFrom] at member
    exact absurd member List.not_mem_nil
  | cons c rest ih =>
    have later {skip : Nat} (member : place ∈ form.placesFrom skip (offset + 1) (some c) rest) :
        ∃ passed ahead, c :: rest = passed ++ ahead ∧ place.start = offset + passed.length ∧
          form.width? (passed.getLast?.or before) ahead = some (place.stop - place.start) ∧
          place.start ≤ place.stop := by
      obtain ⟨passed, ahead, rfl, starts, standing, ordered⟩ := ih member
      refine ⟨c :: passed, ahead, rfl, ?_, ?_, ordered⟩
      · rw [starts, List.length_cons]
        omega
      · rw [← standing, List.getLast?_cons]
        cases passed.getLast? <;> rfl
    cases skip with
    | succ skip =>
      rw [placesFrom] at member
      exact later member
    | zero =>
      rw [placesFrom] at member
      cases here : form.width? before (c :: rest) with
      | none =>
        simp only [here] at member
        exact later member
      | some width =>
        simp only [here] at member
        rcases List.mem_cons.mp member with rfl | member
        · refine ⟨[], c :: rest, rfl, rfl, ?_, Nat.le_add_right offset width⟩
          rw [Nat.add_sub_cancel_left]
          exact here
        · exact later member

theorem bounds_of_mem_places {form : Form} (known : form ∈ forms) {line : Text} {place : Span}
    (member : place ∈ form.places line) : place.start < place.stop ∧ place.stop ≤ line.length := by
  obtain ⟨passed, ahead, rfl, starts, standing, ordered⟩ := standing_of_mem_placesFrom member
  have bounds := pieces?_bounds standing
  have positive := leastWidth_pos form known
  rw [List.length_append]
  omega

end Form

theorem mem_of_foldl_earlier {found : List Match} {best : Option Match} {result : Match}
    (chosen : found.foldl earlier best = some result) : result ∈ found ∨ best = some result := by
  induction found generalizing best with
  | nil => exact Or.inr chosen
  | cons first rest ih =>
    rcases ih chosen with member | kept
    · exact Or.inl (List.mem_cons_of_mem _ member)
    · unfold earlier at kept
      split at kept
      · cases kept
        exact Or.inl (List.mem_cons_self ..)
      · split at kept
        · cases kept
          exact Or.inl (List.mem_cons_self ..)
        · exact Or.inr kept

theorem firstMatch?_place {line : Text} {found : Match} (first : firstMatch? line = some found) :
    ∃ form ∈ forms, found.place ∈ form.places line ∧ found.language = form.language ∧
      ∀ span ∈ Document.codeSpans line, found.place.meets span = false := by
  rcases mem_of_foldl_earlier first with member | none
  · obtain ⟨form, known, placed⟩ := List.mem_filterMap.mp member
    obtain ⟨place, outside, rfl⟩ := Option.map_eq_some_iff.mp placed
    refine ⟨form, known, List.mem_of_find?_eq_some outside, rfl, ?_⟩
    have apart := List.find?_some outside
    rw [Bool.not_eq_true', List.any_eq_false] at apart
    intro span inside
    exact Bool.eq_false_iff.mpr (apart span inside)
  · cases none

end MarkdownReview.Code
