import Mathlib.Data.List.Induction
import Mathlib.Data.List.Infix
import Mathlib.Data.List.TakeWhile
import Mathlib.Data.Nat.Find
import MarkdownReview.Text.Basic
/-!
Where a text occurs in another one, and that a search finds the first place at which it does.
-/

namespace MarkdownReview.Text

def OccursAt (text needle : Text) (offset : Nat) : Prop :=
  ∃ before after, text = before ++ (needle ++ after) ∧ before.length = offset

variable {text needle : Text} {offset : Nat}

theorem occursAt_zero : OccursAt text needle 0 ↔ needle <+: text := by
  refine ⟨?_, ?_⟩
  · intro occurs
    obtain ⟨before, after, rfl, empty⟩ := occurs
    rw [List.eq_nil_of_length_eq_zero empty]
    exact List.prefix_append needle after
  · intro starts
    obtain ⟨after, rfl⟩ := starts
    exact ⟨[], after, rfl, rfl⟩

theorem occursAt_succ {c : Char} :
    OccursAt (c :: text) needle (offset + 1) ↔ OccursAt text needle offset := by
  refine ⟨?_, ?_⟩
  · intro occurs
    obtain ⟨before, after, whole, length⟩ := occurs
    cases before with
    | nil => cases length
    | cons first before =>
      exact ⟨before, after, (List.cons.inj whole).2, Nat.succ.inj length⟩
  · intro occurs
    obtain ⟨before, after, rfl, rfl⟩ := occurs
    exact ⟨c :: before, after, rfl, rfl⟩

theorem OccursAt.length_le (occurs : OccursAt text needle offset) :
    offset + needle.length ≤ text.length := by
  obtain ⟨before, after, rfl, rfl⟩ := occurs
  simp only [List.length_append]
  omega

theorem OccursAt.cut_eq (occurs : OccursAt text needle offset) :
    (text.take (offset + needle.length)).drop offset = needle := by
  obtain ⟨before, after, rfl, rfl⟩ := occurs
  rw [List.take_length_add_append, List.take_left, List.drop_left]

theorem occursAt_of_cut_eq (inside : offset ≤ text.length)
    (cut : (text.drop offset).take needle.length = needle) : OccursAt text needle offset := by
  refine ⟨text.take offset, (text.drop offset).drop needle.length, ?_, ?_⟩
  · have whole := List.take_append_drop needle.length (text.drop offset)
    rw [cut] at whole
    rw [whole, List.take_append_drop]
  · rw [List.length_take]
    omega

theorem exists_occursAt_iff : (∃ offset, OccursAt text needle offset) ↔ needle <:+: text := by
  refine ⟨?_, ?_⟩
  · intro occurs
    obtain ⟨offset, before, after, rfl, -⟩ := occurs
    exact ⟨before, after, List.append_assoc ..⟩
  · intro inside
    obtain ⟨before, after, rfl⟩ := inside
    exact ⟨before.length, before, after, List.append_assoc .., rfl⟩

structure FirstAt (text needle : Text) (offset : Nat) : Prop where
  occurs : OccursAt text needle offset
  first : ∀ earlier < offset, ¬OccursAt text needle earlier

theorem firstAt_zero : FirstAt text needle 0 ↔ needle <+: text := by
  refine ⟨fun isFirst => occursAt_zero.mp isFirst.occurs, ?_⟩
  intro starts
  exact ⟨occursAt_zero.mpr starts, fun earlier less => absurd less (Nat.not_lt_zero earlier)⟩

theorem firstAt_succ {c : Char} :
    FirstAt (c :: text) needle (offset + 1) ↔
      ¬needle <+: (c :: text) ∧ FirstAt text needle offset := by
  refine ⟨?_, ?_⟩
  · intro isFirst
    refine ⟨fun starts => isFirst.first 0 (Nat.succ_pos offset) (occursAt_zero.mpr starts),
      occursAt_succ.mp isFirst.occurs, ?_⟩
    intro earlier less held
    exact isFirst.first (earlier + 1) (Nat.succ_lt_succ less) (occursAt_succ.mpr held)
  · intro later
    obtain ⟨notHere, isFirst⟩ := later
    refine ⟨occursAt_succ.mpr isFirst.occurs, ?_⟩
    intro earlier less held
    cases earlier with
    | zero => exact notHere (occursAt_zero.mp held)
    | succ earlier => exact isFirst.first earlier (by omega) (occursAt_succ.mp held)

theorem FirstAt.unique {other : Nat} (here : FirstAt text needle offset)
    (there : FirstAt text needle other) : offset = other := by
  by_contra different
  rcases Nat.lt_or_gt_of_ne different with less | greater
  · exact there.first offset less here.occurs
  · exact here.first other greater there.occurs

theorem exists_firstAt_iff : (∃ offset, FirstAt text needle offset) ↔ needle <:+: text := by
  rw [← exists_occursAt_iff]
  refine ⟨?_, ?_⟩
  · intro somewhere
    obtain ⟨offset, isFirst⟩ := somewhere
    exact ⟨offset, isFirst.occurs⟩
  · intro somewhere
    classical
    exact ⟨Nat.find somewhere, Nat.find_spec somewhere, fun _ less => Nat.find_min somewhere less⟩

theorem find?_eq_some_iff : find? needle text = some offset ↔ FirstAt text needle offset := by
  induction text generalizing offset with
  | nil =>
    cases needle with
    | nil =>
      have atZero : FirstAt [] [] 0 := firstAt_zero.mpr List.prefix_rfl
      simp only [find?, List.isEmpty_nil, if_true, Option.some.injEq]
      refine ⟨?_, fun isFirst => atZero.unique isFirst⟩
      intro same
      rw [← same]
      exact atZero
    | cons c needle =>
      simp only [find?, List.isEmpty_cons, Bool.false_eq_true, if_false, reduceCtorEq, false_iff]
      intro isFirst
      have bound := isFirst.occurs.length_le
      rw [List.length_cons, List.length_nil] at bound
      omega
  | cons c text ih =>
    rw [find?]
    by_cases here : needle.isPrefixOf (c :: text) = true
    · have atZero := firstAt_zero.mpr (List.isPrefixOf_iff_prefix.mp here)
      rw [if_pos here, Option.some.injEq]
      refine ⟨?_, fun isFirst => atZero.unique isFirst⟩
      intro same
      rw [← same]
      exact atZero
    · have notHere : ¬needle <+: (c :: text) :=
        fun starts => here (List.isPrefixOf_iff_prefix.mpr starts)
      rw [if_neg here, Option.map_eq_some_iff]
      cases offset with
      | zero => simp [firstAt_zero, notHere]
      | succ offset => simp [firstAt_succ, notHere, ih]

theorem find?_eq_none_iff : find? needle text = none ↔ ¬needle <:+: text := by
  rw [← exists_firstAt_iff, Option.eq_none_iff_forall_ne_some]
  simp only [ne_eq, find?_eq_some_iff, not_exists]

/-- A needle does not reach over a character that it does not have. -/
theorem prefix_append_cons_iff {c : Char} (missing : c ∉ needle) (text after : Text) :
    needle <+: text ++ c :: after ↔ needle <+: text := by
  refine ⟨?_, fun starts => starts.trans (List.prefix_append ..)⟩
  intro starts
  have upTo : text ++ [c] <+: text ++ c :: after := ⟨after, by simp⟩
  rcases List.prefix_or_prefix_of_prefix starts upTo with shorter | longer
  · rcases List.prefix_concat_iff.mp shorter with same | within
    · exact absurd (by simp [same]) missing
    · exact within
  · exact absurd (longer.subset (by simp)) missing

theorem infix_append_cons {c : Char} (missing : c ∉ needle) {text after : Text}
    (occurs : needle <:+: text ++ c :: after) : needle <:+: text ∨ needle <:+: after := by
  induction text with
  | nil =>
    rcases List.infix_cons_iff.mp occurs with starts | later
    · exact Or.inl ((prefix_append_cons_iff missing [] after).mp starts).isInfix
    · exact Or.inr later
  | cons first text ih =>
    rcases List.infix_cons_iff.mp occurs with starts | later
    · exact Or.inl ((prefix_append_cons_iff missing (first :: text) after).mp starts).isInfix
    · exact (ih later).imp_left fun within => within.trans (List.suffix_cons ..).isInfix

theorem infix_of_infix_append {passed after : Text} (marked : needle ≠ [])
    (apart : ∀ c ∈ needle, c ∉ passed) (occurs : needle <:+: passed ++ after) :
    needle <:+: after := by
  induction passed with
  | nil => exact occurs
  | cons c passed ih =>
    have missing : c ∉ needle := fun member => apart c member (List.mem_cons_self ..)
    have apartLater : ∀ d ∈ needle, d ∉ passed :=
      fun d member inside => apart d member (List.mem_cons_of_mem _ inside)
    change needle <:+: [] ++ c :: (passed ++ after) at occurs
    rcases infix_append_cons missing occurs with nothing | later
    · exact absurd (List.infix_nil.mp nothing) marked
    · exact ih apartLater later

theorem infix_append_append {between after : Text} (marked : needle ≠ []) (nonempty : between ≠ [])
    (apart : ∀ c ∈ needle, c ∉ between) (occurs : needle <:+: text ++ (between ++ after)) :
    needle <:+: text ∨ needle <:+: after := by
  obtain ⟨c, inner, rfl⟩ := List.exists_cons_of_ne_nil nonempty
  have missing : c ∉ needle := fun member => apart c member (List.mem_cons_self ..)
  have apartInner : ∀ d ∈ needle, d ∉ inner :=
    fun d member inside => apart d member (List.mem_cons_of_mem _ inside)
  exact (infix_append_cons missing occurs).imp_right (infix_of_infix_append marked apartInner)

end MarkdownReview.Text

/-!
Where a text is cut: at its first mark of a kind, or past the last one.
-/

namespace MarkdownReview.Text

variable {mark : Char} {text : Text}

theorem takeWhile_dropWhile_of_not_mem (missing : mark ∉ text) (rest : Text) :
    (text ++ mark :: rest).takeWhile (· != mark) = text ∧
      (text ++ mark :: rest).dropWhile (· != mark) = mark :: rest := by
  have inside : ∀ d ∈ text, (d != mark) = true := by
    intro d member
    rw [bne_iff_ne]
    rintro rfl
    exact missing member
  rw [List.takeWhile_append_of_pos inside, List.dropWhile_append_of_pos inside]
  simp

theorem length_takeWhile_lt_iff :
    (text.takeWhile (· != mark)).length < text.length ↔ mark ∈ text := by
  constructor
  · intro shorter
    by_contra missing
    have whole : text.takeWhile (· != mark) = text := by
      apply List.takeWhile_eq_self_iff.mpr
      intro d member
      rw [bne_iff_ne]
      rintro rfl
      exact missing member
    rw [whole] at shorter
    exact Nat.lt_irrefl _ shorter
  · intro member
    obtain ⟨before, after, rfl, first⟩ := List.eq_append_cons_of_mem member
    rw [(takeWhile_dropWhile_of_not_mem first after).1]
    simp

theorem exists_last_cut (mark : Char) (text : Text) :
    ∃ before rest, before ++ rest = text ∧ (∀ c ∈ before.getLast?, c = mark) ∧ mark ∉ rest := by
  induction text using List.reverseRecOn with
  | nil => exact ⟨[], [], rfl, by simp, List.not_mem_nil⟩
  | append_singleton text c ih =>
    by_cases isMark : c = mark
    · exact ⟨text ++ [c], [], List.append_nil _, by simp [isMark], List.not_mem_nil⟩
    · obtain ⟨before, rest, rfl, ends, missing⟩ := ih
      have later : mark ∉ rest ++ [c] := by simp [missing, Ne.symm isMark]
      exact ⟨before, rest ++ [c], (List.append_assoc ..).symm, ends, later⟩

end MarkdownReview.Text
