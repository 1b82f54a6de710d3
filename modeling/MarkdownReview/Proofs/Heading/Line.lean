import Mathlib.Data.List.TakeWhile
import MarkdownReview.Heading.Contents
import MarkdownReview.Proofs.Review.Uncovered
import MarkdownReview.Proofs.Text.Blank
/-!
How heading lines are written, and that there is one way to read them. Heading lines and open lines
are uncovered lines, and none is both.
-/

namespace MarkdownReview.HeadingLine

open Document (FenceState)

/-- One to three marks, then at least one blank, and then a text that starts with no blank. -/
structure Spells (line : Text) (heading : HeadingLine) : Prop where
  level_pos : 1 ≤ heading.level
  level_le : heading.level ≤ 3
  starts : ∃ c tail, heading.rest = c :: tail ∧ Text.isBlank c = false
  split : ∃ blanks, blanks ≠ [] ∧ (∀ c ∈ blanks, Text.isBlank c = true) ∧
    line = List.replicate heading.level headingMark ++ (blanks ++ heading.rest)

variable {line : Text} {heading : HeadingLine}

theorem spells_of_ofLine? (read : ofLine? line = some heading) : Spells line heading := by
  simp only [ofLine?, Option.ite_none_right_eq_some, Option.some_inj] at read
  obtain ⟨⟨positive, atMost, shorter, nonempty⟩, rfl⟩ := read
  have marks : line.takeWhile (· == headingMark) =
      List.replicate (line.takeWhile (· == headingMark)).length headingMark := by
    apply List.eq_replicate_of_mem
    intro c member
    exact beq_iff_eq.mp (List.mem_takeWhile_imp (p := (· == headingMark)) member)
  have after := List.takeWhile_append_dropWhile (p := Text.isBlank)
    (l := line.dropWhile (· == headingMark))
  refine ⟨positive, atMost, ?_,
    (line.dropWhile (· == headingMark)).takeWhile Text.isBlank, ?_, ?_, ?_⟩
  · refine ⟨_, _, (List.cons_head_tail nonempty).symm, List.head_dropWhile_not _ nonempty⟩
  · intro none
    rw [none, List.nil_append] at after
    exact absurd (congrArg List.length after) (Nat.ne_of_lt shorter)
  · exact fun c member => List.mem_takeWhile_imp member
  · rw [← marks, Text.trimStart, after, List.takeWhile_append_dropWhile]

theorem ofLine?_of_spells (spells : Spells line heading) : ofLine? line = some heading := by
  obtain ⟨positive, atMost, ⟨c, tail, starts, visible⟩, blanks, nonempty, blank, rfl⟩ := spells
  obtain ⟨first, more, rfl⟩ := List.exists_cons_of_ne_nil nonempty
  have areMarks : ∀ mark ∈ List.replicate heading.level headingMark, (mark == headingMark) = true :=
    fun mark member => beq_iff_eq.mpr (List.eq_of_mem_replicate member)
  have notMark : ¬(· == headingMark) first = true := by
    intro same
    have markIsBlank := blank first (List.mem_cons_self ..)
    rw [beq_iff_eq.mp same] at markIsBlank
    exact absurd markIsBlank (by decide)
  have trimmed : Text.trimStart (first :: more ++ heading.rest) = heading.rest := by
    rw [Text.trimStart, List.dropWhile_append_of_pos blank, starts,
      List.dropWhile_cons_of_neg (by simp [visible])]
  have marks : (List.replicate heading.level headingMark ++
      (first :: more ++ heading.rest)).takeWhile (· == headingMark) =
        List.replicate heading.level headingMark := by
    rw [List.takeWhile_append_of_pos areMarks, List.cons_append,
      List.takeWhile_cons_of_neg (p := (· == headingMark)) notMark, List.append_nil]
  have after : (List.replicate heading.level headingMark ++
      (first :: more ++ heading.rest)).dropWhile (· == headingMark) =
        first :: more ++ heading.rest := by
    rw [List.dropWhile_append_of_pos areMarks, List.cons_append,
      List.dropWhile_cons_of_neg (p := (· == headingMark)) notMark]
  have shorter : heading.rest.length < (first :: more ++ heading.rest).length := by
    rw [List.length_append, List.length_cons]
    omega
  have nonempty : heading.rest ≠ [] := by
    rw [starts]
    exact List.cons_ne_nil c tail
  simp only [ofLine?, marks, after, trimmed, List.length_replicate]
  exact if_pos ⟨positive, atMost, shorter, nonempty⟩

/-- Reading finds marks and text exactly where a line is so written, so there is one way to split it. -/
theorem ofLine?_eq_some_iff : ofLine? line = some heading ↔ Spells line heading :=
  ⟨spells_of_ofLine?, ofLine?_of_spells⟩

theorem mayHoldCode_eq_false (read : ofLine? line = some heading) :
    OpenLine.mayHoldCode line = false := by
  simp only [ofLine?, Option.ite_none_right_eq_some] at read
  obtain ⟨⟨marked, -⟩, -⟩ := read
  cases line with
  | nil => exact absurd marked (by simp)
  | cons c rest =>
    by_cases mark : c = headingMark
    · obtain ⟨tail, trimmed⟩ := Text.trim_cons (by decide : Text.isBlank headingMark = false) rest
      rw [mark, OpenLine.mayHoldCode, trimmed]
      exact bne_self_eq_false headingMark
    · rw [List.takeWhile_cons_of_neg (by simpa using mark)] at marked
      exact absurd marked (by simp)

theorem map_snd_scan (state : FenceState) (number start : Nat) (lines : List Text) :
    (scan state number lines).map (·.2) =
      ((OpenLine.uncovered state number start lines).map (·.text)).filterMap ofLine? := by
  rw [scan_eq_filterMap state number start, List.map_filterMap, List.filterMap_map]
  apply List.filterMap_congr
  intro line uncovered
  rw [Option.map_map]
  exact Option.map_id'

end MarkdownReview.HeadingLine

/-!
What the entries of a table of contents depend on. All but the anchor of an entry is read off its
own heading line, and all but the line number is the same wherever the heading lines stand.
-/

namespace MarkdownReview

namespace Heading

def unanchored (heading : Heading) : Heading := { heading with anchor := [] }

def unnumbered (heading : Heading) : Heading := { heading with line := 0 }

def moved (lines headings : Nat) (heading : Heading) : Heading :=
  { heading with line := heading.line + lines, index := heading.index + headings }

def ofLine (index : Nat) (entry : Nat × HeadingLine) : Heading :=
  let text := PlainText.ofMarkup entry.2.rest
  ⟨[], text, text, entry.2.level, index, entry.1⟩

@[simp] theorem unanchored_text (heading : Heading) : heading.unanchored.text = heading.text := rfl

@[simp] theorem ofLine_display (index : Nat) (entry : Nat × HeadingLine) :
    (ofLine index entry).display = (ofLine index entry).text := by
  rw [ofLine]

@[simp] theorem ofLine_text (index : Nat) (entry : Nat × HeadingLine) :
    (ofLine index entry).text = PlainText.ofMarkup entry.2.rest := by
  rw [ofLine]

end Heading

namespace Contents

theorem headingsFrom_cons (unicode : Bool) (pool : Anchor.Pool) (index : Nat)
    (first : Nat × HeadingLine) (rest : List (Nat × HeadingLine)) :
    headingsFrom unicode pool index (first :: rest) =
      ⟨(pool.give (Slug.ofText unicode (PlainText.ofMarkup first.2.rest))).1,
        PlainText.ofMarkup first.2.rest, PlainText.ofMarkup first.2.rest, first.2.level, index,
        first.1⟩ ::
      headingsFrom unicode
        (pool.give (Slug.ofText unicode (PlainText.ofMarkup first.2.rest))).2 (index + 1) rest := by
  rw [headingsFrom]

theorem unanchored_headingsFrom (unicode : Bool) (pool : Anchor.Pool) (index : Nat)
    (found : List (Nat × HeadingLine)) :
    (headingsFrom unicode pool index found).map Heading.unanchored =
      found.mapIdx fun i => Heading.ofLine (index + i) := by
  induction found generalizing pool index with
  | nil => rfl
  | cons first rest ih =>
    have shift : (fun i => Heading.ofLine (index + 1 + i)) =
        fun i => Heading.ofLine (index + (i + 1)) := by
      funext i
      rw [Nat.add_assoc, Nat.add_comm 1]
    rw [List.mapIdx_cons, headingsFrom_cons, List.map_cons, ih, shift, Heading.unanchored,
      Heading.ofLine, Nat.add_zero]

theorem map_headingsFrom {α : Type} {view : Heading → α} {own : Nat × HeadingLine → α}
    (same : ∀ anchor index entry,
      view ⟨anchor, PlainText.ofMarkup entry.2.rest, PlainText.ofMarkup entry.2.rest,
        entry.2.level, index, entry.1⟩ = own entry)
    (unicode : Bool) (pool : Anchor.Pool) (index : Nat) (found : List (Nat × HeadingLine)) :
    (headingsFrom unicode pool index found).map view = found.map own := by
  induction found generalizing pool index with
  | nil => rfl
  | cons first rest ih =>
    rw [headingsFrom_cons, List.map_cons, List.map_cons, ih, same]

theorem lines_headingsFrom (unicode : Bool) (pool : Anchor.Pool) (index : Nat)
    (found : List (Nat × HeadingLine)) :
    (headingsFrom unicode pool index found).map (·.line) = found.map (·.1) :=
  map_headingsFrom (fun _ _ _ => rfl) unicode pool index found

theorem texts_headingsFrom (unicode : Bool) (pool : Anchor.Pool) (index : Nat)
    (found : List (Nat × HeadingLine)) :
    (headingsFrom unicode pool index found).map (·.text) =
      found.map fun entry => PlainText.ofMarkup entry.2.rest := by
  apply map_headingsFrom
  intro anchor index entry
  with_reducible rfl

theorem exists_entry_of_getElem? {unicode : Bool} {pool : Anchor.Pool} {index i : Nat}
    {found : List (Nat × HeadingLine)} {heading : Heading}
    (stands : (headingsFrom unicode pool index found)[i]? = some heading) :
    ∃ entry, found[i]? = some entry ∧ heading.unanchored = Heading.ofLine (index + i) entry := by
  have entries := congrArg (·[i]?) (unanchored_headingsFrom unicode pool index found)
  simp only [List.getElem?_map, List.getElem?_mapIdx, stands, Option.map_some] at entries
  obtain ⟨entry, isEntry, same⟩ := Option.map_eq_some_iff.mp entries.symm
  exact ⟨entry, isEntry, same.symm⟩

theorem length_headingsFrom (unicode : Bool) (pool : Anchor.Pool) (index : Nat)
    (found : List (Nat × HeadingLine)) :
    (headingsFrom unicode pool index found).length = found.length := by
  have lengths := congrArg List.length (unanchored_headingsFrom unicode pool index found)
  rwa [List.length_map, List.length_mapIdx] at lengths

/-- Headings further down are given their anchors by what is left of the pool, and the first keep
theirs. -/
theorem exists_headingsFrom_append (unicode : Bool) (pool : Anchor.Pool) (index : Nat)
    (first second : List (Nat × HeadingLine)) :
    ∃ left, headingsFrom unicode pool index (first ++ second) =
      headingsFrom unicode pool index first ++
        headingsFrom unicode left (index + first.length) second := by
  induction first generalizing pool index with
  | nil => exact ⟨pool, rfl⟩
  | cons entry rest ih =>
    obtain ⟨left, later⟩ :=
      ih (pool.give (Slug.ofText unicode (PlainText.ofMarkup entry.2.rest))).2 (index + 1)
    refine ⟨left, ?_⟩
    rw [Nat.add_assoc, Nat.add_comm 1] at later
    rw [List.cons_append, headingsFrom_cons, headingsFrom_cons, later, List.length_cons,
      List.cons_append]

theorem unnumbered_headingsFrom (unicode : Bool) (pool : Anchor.Pool) (index : Nat)
    {found other : List (Nat × HeadingLine)} (same : other.map (·.2) = found.map (·.2)) :
    (headingsFrom unicode pool index other).map Heading.unnumbered =
      (headingsFrom unicode pool index found).map Heading.unnumbered := by
  induction found generalizing pool index other with
  | nil => rw [List.map_eq_nil_iff.mp same]
  | cons first rest ih =>
    obtain ⟨replacement, others, rfl, heading, later⟩ := List.map_eq_cons_iff.mp same
    rw [headingsFrom, headingsFrom, heading, List.map_cons, List.map_cons, ih _ _ later]
    rfl

end Contents
end MarkdownReview
