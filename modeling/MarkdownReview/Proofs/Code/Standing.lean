import MarkdownReview.Proofs.Code.Form
import MarkdownReview.Proofs.Code.Reading
import MarkdownReview.Proofs.Text.Occurrence
/-!
Where a form stands on a line, tried at one offset alone. No two forms stand at one offset, since
they begin with different words, and what comes after the next tick does not count.
-/

namespace MarkdownReview.Code

open Document (tick)

variable {before : Option Char} {ahead tail : Text} {c : Char} {width : Nat}

def Piece.avoids (c : Char) : Piece → Bool
  | edge => true
  | words alternatives => alternatives.all fun word => !word.contains c
  | run _ belongs => !belongs c
  | one choices => !choices.contains c

theorem isPrefixOf_append_cons {word : Text} (missing : c ∉ word) (ahead tail : Text) :
    word.isPrefixOf (ahead ++ c :: tail) = word.isPrefixOf ahead := by
  rw [Bool.eq_iff_iff, List.isPrefixOf_iff_prefix, List.isPrefixOf_iff_prefix,
    Text.prefix_append_cons_iff missing]

theorem takeWhile_append_cons {belongs : Char → Bool} (outside : belongs c = false)
    (ahead tail : Text) : (ahead ++ c :: tail).takeWhile belongs = ahead.takeWhile belongs := by
  induction ahead with
  | nil => rw [List.nil_append, List.takeWhile_cons_of_neg (by simp [outside]), List.takeWhile_nil]
  | cons next ahead ih => rw [List.cons_append, List.takeWhile_cons, List.takeWhile_cons, ih]

theorem Piece.width?_append_cons {piece : Piece} (avoids : piece.avoids c = true)
    (before : Option Char) (ahead tail other : Text) :
    piece.width? before (ahead ++ c :: tail) = piece.width? before (ahead ++ c :: other) := by
  have heads : (ahead ++ c :: tail).head? = (ahead ++ c :: other).head? := by cases ahead <;> rfl
  cases piece with
  | edge => rw [width?, width?, heads]
  | words alternatives =>
    have missing : ∀ word ∈ alternatives, c ∉ word := by simpa [Piece.avoids] using avoids
    have same : ∀ word ∈ alternatives,
        word.isPrefixOf (ahead ++ c :: tail) = word.isPrefixOf (ahead ++ c :: other) := by
      intro word member
      rw [isPrefixOf_append_cons (missing word member),
        isPrefixOf_append_cons (missing word member)]
    rw [width?, width?, ← List.head?_filter, ← List.head?_filter, List.filter_congr same]
  | run least belongs =>
    have outside : belongs c = false := by simpa [Piece.avoids] using avoids
    rw [width?, width?, takeWhile_append_cons outside, takeWhile_append_cons outside]
  | one choices => rw [width?, width?, heads]

theorem Piece.width?_le {piece : Piece} (avoids : piece.avoids c = true)
    (taken : piece.width? before (ahead ++ c :: tail) = some width) : width ≤ ahead.length := by
  cases piece with
  | edge =>
    obtain ⟨-, same⟩ := Option.ite_none_right_eq_some.mp taken
    cases same
    exact Nat.zero_le _
  | words alternatives =>
    have missing : ∀ word ∈ alternatives, c ∉ word := by simpa [Piece.avoids] using avoids
    obtain ⟨word, found, rfl⟩ := Option.map_eq_some_iff.mp taken
    have starts := List.find?_some found
    rw [isPrefixOf_append_cons (missing word (List.mem_of_find?_eq_some found))] at starts
    exact (List.isPrefixOf_iff_prefix.mp starts).length_le
  | run least belongs =>
    have outside : belongs c = false := by simpa [Piece.avoids] using avoids
    obtain ⟨-, same⟩ := Option.ite_none_right_eq_some.mp taken
    cases same
    rw [takeWhile_append_cons outside]
    exact (List.takeWhile_prefix belongs).length_le
  | one choices =>
    obtain ⟨chosen, same⟩ := Option.ite_none_right_eq_some.mp taken
    cases same
    cases ahead with
    | nil => simp_all [Piece.avoids]
    | cons next ahead => exact Nat.succ_pos _

theorem pieces?_append_cons {pieces : List Piece}
    (avoid : ∀ piece ∈ pieces, piece.avoids c = true) (before : Option Char)
    (ahead tail other : Text) :
    pieces? pieces before (ahead ++ c :: tail) = pieces? pieces before (ahead ++ c :: other) := by
  induction pieces generalizing before ahead with
  | nil => rfl
  | cons piece rest ih =>
    have avoids := avoid piece (List.mem_cons_self ..)
    rw [pieces?, pieces?, Piece.width?_append_cons avoids before ahead tail other]
    cases taken : piece.width? before (ahead ++ c :: other) with
    | none => rfl
    | some width =>
      have within := Piece.width?_le avoids taken
      have last : lastTaken before (ahead ++ c :: tail) width =
          lastTaken before (ahead ++ c :: other) width := by
        cases width with
        | zero => rfl
        | succ width =>
          rw [lastTaken, lastTaken, List.getElem?_append_left within,
            List.getElem?_append_left within]
      simp only [last, List.drop_append_of_le_length within]
      rw [ih fun piece member => avoid piece (List.mem_cons_of_mem _ member)]

theorem drop_eq_append_cons {text : Text} {start i : Nat} (here : text[i]? = some c)
    (least : start ≤ i) : text.drop start = (text.take i).drop start ++ c :: text.drop (i + 1) := by
  obtain ⟨inside, same⟩ := List.getElem?_eq_some_iff.mp here
  have within : start ≤ (text.take i).length := by
    rw [List.length_take]
    omega
  rw [← List.drop_append_of_le_length within, ← same, List.cons_getElem_drop_succ,
    List.take_append_drop]

theorem forms_avoid_tick : ∀ form ∈ forms, ∀ piece ∈ form.pieces, piece.avoids tick = true := by
  simp only [forms, List.forall_mem_cons]
  decide +kernel

def openings : List Piece → List Text
  | .edge :: rest => openings rest
  | .words alternatives :: _ => alternatives
  | _ => []

theorem exists_opening {pieces : List Piece} (opens : openings pieces ≠ [])
    (taken : pieces? pieces before ahead = some width) :
    ∃ word ∈ openings pieces, word <+: ahead := by
  induction pieces generalizing before width with
  | nil => exact absurd rfl opens
  | cons piece rest ih =>
    rw [pieces?] at taken
    cases first : piece.width? before ahead with
    | none => simp [first] at taken
    | some here =>
      simp only [first] at taken
      obtain ⟨later, read, rfl⟩ := Option.map_eq_some_iff.mp taken
      cases piece with
      | edge =>
        obtain ⟨-, same⟩ := Option.ite_none_right_eq_some.mp first
        cases same
        exact ih opens read
      | words alternatives =>
        obtain ⟨word, found, -⟩ := Option.map_eq_some_iff.mp first
        have starts := List.find?_some found
        exact ⟨word, List.mem_of_find?_eq_some found, List.isPrefixOf_iff_prefix.mp starts⟩
      | run least belongs => exact absurd rfl opens
      | one choices => exact absurd rfl opens

theorem openings_ne_nil : ∀ form ∈ forms, openings form.pieces ≠ [] := by
  simp only [forms, List.forall_mem_cons]
  decide

/-- Of the words that two forms begin with, none is the beginning of the other. -/
theorem openings_apart : forms.Pairwise fun first second =>
    ∀ one ∈ openings first.pieces, ∀ two ∈ openings second.pieces, ¬one <+: two ∧ ¬two <+: one := by
  have apart : (forms.map fun form => openings form.pieces).Pairwise fun first second =>
      ∀ one ∈ first, ∀ two ∈ second, ¬one <+: two ∧ ¬two <+: one := by decide +kernel
  exact List.pairwise_map.mp apart

namespace Form

/-- The end of a form that is tried at one offset of a line alone, with every choice open. -/
def endAt? (form : Form) (text : Text) (start : Nat) : Option Nat :=
  (readings form.pieces (text.take start).getLast? (text.drop start)).head?.map (start + ·)

variable {form : Form} {text : Text} {start stop : Nat}

theorem endAt?_eq (known : form ∈ forms) (text : Text) (start : Nat) :
    form.endAt? text start =
      (form.width? (text.take start).getLast? (text.drop start)).map (start + ·) := by
  rw [endAt?, head?_readings (forms_decisive form known), width?]

theorem endAt?_bounds (known : form ∈ forms) (stands : form.endAt? text start = some stop) :
    start < stop ∧ stop ≤ text.length := by
  rw [endAt?_eq known] at stands
  obtain ⟨width, taken, rfl⟩ := Option.map_eq_some_iff.mp stands
  have bounds := pieces?_bounds taken
  have positive := leastWidth_pos form known
  rw [List.length_drop] at bounds
  omega

theorem endAt?_apart (text : Text) (start : Nat) : forms.Pairwise fun first second =>
    first.endAt? text start = none ∨ second.endAt? text start = none := by
  refine openings_apart.imp_of_mem ?_
  intro first second knownFirst knownSecond apart
  rw [endAt?_eq knownFirst, endAt?_eq knownSecond, Option.map_eq_none_iff, Option.map_eq_none_iff]
  by_contra both
  obtain ⟨one, two⟩ := not_or.mp both
  obtain ⟨width, taken⟩ := Option.ne_none_iff_exists'.mp one
  obtain ⟨otherWidth, takenOther⟩ := Option.ne_none_iff_exists'.mp two
  obtain ⟨word, member, starts⟩ := exists_opening (openings_ne_nil first knownFirst) taken
  obtain ⟨other, memberOther, startsOther⟩ :=
    exists_opening (openings_ne_nil second knownSecond) takenOther
  have different := apart word member other memberOther
  rcases List.prefix_or_prefix_of_prefix starts startsOther with shorter | longer
  · exact different.1 shorter
  · exact different.2 longer

theorem endAt?_congr_of_take {other : Text} {i : Nat} (known : form ∈ forms)
    (isTick : text[i]? = some tick) (same : other.take (i + 1) = text.take (i + 1))
    (least : start ≤ i) : form.endAt? other start = form.endAt? text start := by
  have isTickOther : other[i]? = some tick := by
    rw [← List.getElem?_take_of_lt (Nat.lt_succ_self i), same,
      List.getElem?_take_of_lt (Nat.lt_succ_self i), isTick]
  have shorter {length : Nat} (within : length ≤ i) : other.take length = text.take length := by
    have cut := congrArg (List.take length) same
    rwa [List.take_take, List.take_take, Nat.min_eq_left (by omega)] at cut
  have avoid := forms_avoid_tick form known
  rw [endAt?_eq known, endAt?_eq known, width?, width?, drop_eq_append_cons isTick least,
    drop_eq_append_cons isTickOther least, shorter least, shorter (Nat.le_refl i),
    pieces?_append_cons avoid]

end Form
end MarkdownReview.Code
