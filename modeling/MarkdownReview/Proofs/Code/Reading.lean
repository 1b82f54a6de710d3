import Mathlib.Data.List.Infix
import Mathlib.Data.List.TakeWhile
import MarkdownReview.Code
import MarkdownReview.Proofs.Text.Blank
/-!
Statement forms read with every choice open. Each run may give back what it took and each word may
give way to another one; the first reading that succeeds is the one that takes each piece once, as
far as it goes, because no form can go on with what a run gives back.
-/

namespace MarkdownReview.Code

def Piece.widths (before : Option Char) (ahead : Text) : Piece → List Nat
  | edge => if isEdge before ahead.head? then [0] else []
  | words alternatives => (alternatives.filter (·.isPrefixOf ahead)).map (·.length)
  | run least belongs => (List.range' least ((ahead.takeWhile belongs).length + 1 - least)).reverse
  | one choices => if ahead.head?.any choices.contains then [1] else []

/-- The widths of pieces one after the other, where each choice may be taken back for the next. -/
def readings : List Piece → Option Char → Text → List Nat
  | [], _, _ => [0]
  | piece :: rest, before, ahead =>
    (piece.widths before ahead).flatMap fun width =>
      (readings rest (lastTaken before ahead width) (ahead.drop width)).map (width + ·)

variable {before : Option Char} {ahead : Text} {pieces : List Piece}

theorem Piece.widths_run {least : Nat} {belongs : Char → Bool}
    (enough : least ≤ (ahead.takeWhile belongs).length) :
    (run least belongs).widths before ahead = (ahead.takeWhile belongs).length ::
      (List.range' least ((ahead.takeWhile belongs).length - least)).reverse := by
  have count : (ahead.takeWhile belongs).length + 1 - least =
      (ahead.takeWhile belongs).length - least + 1 := by omega
  rw [widths, count, List.range'_1_concat, List.reverse_append, List.reverse_singleton,
    List.singleton_append, Nat.add_sub_cancel' enough]

theorem Piece.head?_widths (piece : Piece) (before : Option Char) (ahead : Text) :
    (piece.widths before ahead).head? = piece.width? before ahead := by
  cases piece with
  | edge =>
    simp only [widths, width?]
    split <;> rfl
  | words alternatives => rw [widths, width?, List.head?_map, List.head?_filter]
  | run least belongs =>
    by_cases enough : least ≤ (ahead.takeWhile belongs).length
    · rw [widths_run enough, width?, if_pos enough]
      rfl
    · rw [widths, width?, if_neg enough, Nat.sub_eq_zero_of_le (by omega)]
      rfl
  | one choices =>
    simp only [widths, width?]
    split <;> rfl

/-- Whether pieces may read a text that starts with a character; no more than a first check. -/
def mayOpen : List Piece → Char → Bool
  | [], _ => true
  | .edge :: rest, c => mayOpen rest c
  | .words alternatives :: _, c => alternatives.any fun word => word.head?.all (· == c)
  | .run least belongs :: rest, c => belongs c || (least == 0 && mayOpen rest c)
  | .one choices :: _, c => choices.contains c

theorem readings_eq_nil {c : Char} {rest : Text} (closed : mayOpen pieces c = false) :
    readings pieces before (c :: rest) = [] := by
  induction pieces generalizing before with
  | nil => cases closed
  | cons piece pieces ih =>
    rw [readings, List.flatMap_eq_nil_iff]
    intro width tried
    rw [List.map_eq_nil_iff]
    cases piece with
    | edge =>
      rw [Piece.widths] at tried
      split at tried
      · rw [List.mem_singleton.mp tried]
        exact ih closed
      · exact absurd tried List.not_mem_nil
    | words alternatives =>
      obtain ⟨word, kept, -⟩ := List.mem_map.mp tried
      obtain ⟨member, starts⟩ := List.mem_filter.mp kept
      have notOpen := List.any_eq_false.mp closed word member
      cases word with
      | nil => exact absurd rfl notOpen
      | cons first tail =>
        rw [List.isPrefixOf_cons_cons, Bool.and_eq_true] at starts
        exact absurd starts.1 notOpen
    | run least belongs =>
      obtain ⟨outside, rest⟩ := Bool.or_eq_false_iff.mp closed
      rw [Piece.widths, List.takeWhile_cons_of_neg (by simp [outside]), List.mem_reverse,
        List.mem_range'_1] at tried
      obtain ⟨rfl, rfl⟩ : least = 0 ∧ width = 0 := by
        simp only [List.length_nil] at tried
        omega
      exact ih rest
    | one choices =>
      rw [Piece.widths, List.head?_cons, Option.any_some] at tried
      change choices.contains c = false at closed
      rw [closed] at tried
      exact absurd tried List.not_mem_nil

/-- Nothing that a run could give back lets the pieces after it go on, and of the words of a choice
no two stand at one place. -/
def Decisive : List Piece → Prop
  | [] => True
  | .run _ belongs :: rest =>
    (rest = [] ∨ ∀ c, belongs c = true → mayOpen rest c = false) ∧ Decisive rest
  | .words alternatives :: rest =>
    (alternatives.Pairwise fun first second => ¬first <+: second ∧ ¬second <+: first) ∧
      Decisive rest
  | _ :: rest => Decisive rest

theorem readings_of_mem_tail {piece : Piece} {width : Nat} (decisive : Decisive (piece :: pieces))
    (later : width ∈ (piece.widths before ahead).tail) :
    pieces = [] ∨ readings pieces (lastTaken before ahead width) (ahead.drop width) = [] := by
  cases piece with
  | edge =>
    rw [Piece.widths] at later
    split at later <;> exact absurd later List.not_mem_nil
  | words alternatives =>
    have apart := decisive.1.filter (·.isPrefixOf ahead)
    cases standing : alternatives.filter (·.isPrefixOf ahead) with
    | nil =>
      rw [Piece.widths, standing] at later
      exact absurd later List.not_mem_nil
    | cons first others =>
      rw [Piece.widths, standing, List.map_cons, List.tail_cons] at later
      rw [standing] at apart
      obtain ⟨second, member, -⟩ := List.mem_map.mp later
      have stands {word : Text} (member : word ∈ first :: others) : word <+: ahead := by
        rw [← standing] at member
        exact List.isPrefixOf_iff_prefix.mp (List.mem_filter.mp member).2
      have different := (List.pairwise_cons.mp apart).1 second member
      rcases List.prefix_or_prefix_of_prefix (stands (List.mem_cons_self ..))
        (stands (List.mem_cons_of_mem _ member)) with shorter | longer
      · exact absurd shorter different.1
      · exact absurd longer different.2
  | run least belongs =>
    refine decisive.1.imp id ?_
    intro closed
    have shorter : width < (ahead.takeWhile belongs).length := by
      by_cases enough : least ≤ (ahead.takeWhile belongs).length
      · rw [Piece.widths_run enough, List.tail_cons, List.mem_reverse, List.mem_range'_1] at later
        omega
      · have taken := List.mem_of_mem_tail later
        rw [Piece.widths, List.mem_reverse, List.mem_range'_1] at taken
        omega
    have within := Nat.lt_of_lt_of_le shorter (List.takeWhile_prefix belongs).length_le
    have given : belongs ahead[width] = true := by
      have taken := List.mem_takeWhile_imp (List.getElem_mem shorter)
      rwa [(List.takeWhile_prefix belongs).getElem shorter] at taken
    rw [← List.cons_getElem_drop_succ (h := within)]
    exact readings_eq_nil (closed _ given)
  | one choices =>
    rw [Piece.widths] at later
    split at later <;> exact absurd later List.not_mem_nil

theorem Decisive.tail {piece : Piece} (decisive : Decisive (piece :: pieces)) :
    Decisive pieces := by
  cases piece with
  | edge => exact decisive
  | words alternatives => exact decisive.2
  | run least belongs => exact decisive.2
  | one choices => exact decisive

theorem head?_readings (decisive : Decisive pieces) (before : Option Char) (ahead : Text) :
    (readings pieces before ahead).head? = pieces? pieces before ahead := by
  induction pieces generalizing before ahead with
  | nil => rfl
  | cons piece rest ih =>
    have first := piece.head?_widths before ahead
    rw [readings, pieces?, ← first]
    cases widths : piece.widths before ahead with
    | nil => rfl
    | cons width others =>
      simp only [List.flatMap_cons, List.head?_append, List.head?_map, List.head?_cons,
        ih decisive.tail]
      cases taken : pieces? rest (lastTaken before ahead width) (ahead.drop width) with
      | some later => rfl
      | none =>
        have fruitless : ∀ other ∈ others,
            (readings rest (lastTaken before ahead other) (ahead.drop other)).map (other + ·) =
              [] := by
          intro other member
          rw [List.map_eq_nil_iff]
          have inTail : other ∈ (piece.widths before ahead).tail := by rwa [widths]
          rcases readings_of_mem_tail decisive inTail with rfl | none
          · cases taken
          · exact none
        rw [List.flatMap_eq_nil_iff.mpr fruitless]
        rfl

theorem decisive_blanks_one {choices : List Char}
    (visible : choices.any Text.isBlank = false) : Decisive [anyBlanks, .one choices] := by
  refine ⟨Or.inr ?_, trivial⟩
  intro c blank
  apply Bool.eq_false_iff.mpr
  intro chosen
  exact List.any_eq_false.mp visible c (List.contains_iff_mem.mp chosen) blank

theorem not_isBlank_of_isWord {c : Char} (isWord : Text.isWord c = true) :
    Text.isBlank c = false := by
  apply Bool.eq_false_iff.mpr
  intro blank
  rw [Text.isWord_of_isBlank blank] at isWord
  cases isWord

theorem decisive_named {choices : List Char} (visible : choices.any Text.isBlank = false)
    (signs : choices.any Text.isWord = false) :
    Decisive [someBlanks, name, anyBlanks, .one choices] := by
  refine ⟨Or.inr ?_, Or.inr ?_, decisive_blanks_one visible⟩
  · intro c blank
    simp [mayOpen, name, Text.isWord_of_isBlank blank]
  · intro c isWord
    have notChosen : c ∉ choices := fun chosen => List.any_eq_false.mp signs c chosen isWord
    simp [mayOpen, anyBlanks, not_isBlank_of_isWord isWord, notChosen]

theorem not_blank_of_dotted {c : Char} (dotted : (Text.isWord c || c == '.') = true) :
    Text.isBlank c = false := by
  rcases Bool.or_eq_true_iff.mp dotted with isWord | isDot
  · exact not_isBlank_of_isWord isWord
  · rw [beq_iff_eq.mp isDot]
    decide

theorem decisive_dotted {rest : List Piece}
    (closed : rest = [] ∨ ∀ c, Text.isBlank c = false → mayOpen rest c = false)
    (decisive : Decisive rest) : Decisive (someBlanks :: dottedName :: rest) := by
  refine ⟨Or.inr ?_, closed.imp id (fun closed c dotted => closed c (not_blank_of_dotted dotted)),
    decisive⟩
  intro c blank
  apply Bool.eq_false_iff.mpr
  intro opens
  have dotted : (Text.isWord c || c == '.') = true := by simpa [mayOpen, dottedName] using opens
  rw [not_blank_of_dotted dotted] at blank
  cases blank

theorem decisive_import : Decisive [someBlanks, word "import", .edge] := by
  refine ⟨Or.inr ?_, List.pairwise_singleton .., trivial⟩
  intro c blank
  apply Bool.eq_false_iff.mpr
  intro opens
  obtain rfl : 'i' = c := by simpa [mayOpen, word] using opens
  exact absurd blank (by decide)

theorem forms_decisive : ∀ form ∈ forms, Decisive form.pieces := by
  have alone (text : String) := List.pairwise_singleton
    (fun first second : Text => ¬first <+: second ∧ ¬second <+: first) text.toList
  simp only [forms, List.forall_mem_cons, List.not_mem_nil, false_imp_iff, implies_true, and_true]
  refine ⟨⟨alone _, decisive_dotted (Or.inr ?_) decisive_import⟩,
    ⟨alone _, decisive_dotted (Or.inl rfl) trivial⟩,
    ⟨alone _, decisive_named (by decide) (by decide)⟩,
    ⟨alone _, decisive_named (by decide) (by decide)⟩,
    ⟨alone _, decisive_blanks_one (by decide)⟩,
    ⟨by decide, decisive_named (by decide) (by decide)⟩,
    ⟨alone _, decisive_named (by decide) (by decide)⟩,
    ⟨alone _, trivial⟩, ⟨alone _, decisive_blanks_one (by decide)⟩⟩
  intro c visible
  simp [mayOpen, someBlanks, visible]

end MarkdownReview.Code
