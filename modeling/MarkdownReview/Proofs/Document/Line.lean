import Mathlib.Data.List.Basic
import MarkdownReview.Document
/-!
Where the lines of a document stand in it. A document is the text up to a line, the line, and the
text past it; the text up to the line is as long as the offset at which the line starts says.
-/

namespace MarkdownReview.Document

def terminated (lines : List Text) : Text := lines.flatMap (· ++ [newline])

def preceded (lines : List Text) : Text := lines.flatMap (newline :: ·)

theorem length_terminated (lines : List Text) : (terminated lines).length = extent lines := by
  induction lines with
  | nil => rfl
  | cons line rest ih =>
    simp only [terminated, List.flatMap_cons, List.length_append, List.length_singleton, extent]
      at ih ⊢
    rw [ih]

theorem join_cons (line : Text) (rest : List Text) : join (line :: rest) = line ++ preceded rest := by
  induction rest generalizing line with
  | nil => simp [join, preceded]
  | cons next rest ih =>
    have later := ih next
    simp only [join, preceded] at later ⊢
    rw [List.intercalate_cons_cons, later]
    simp

theorem join_append_cons (before : List Text) (line : Text) (after : List Text) :
    join (before ++ line :: after) = terminated before ++ (line ++ preceded after) := by
  induction before with
  | nil => exact join_cons line after
  | cons first before ih =>
    have nonempty : before ++ line :: after ≠ [] := by simp
    rw [List.cons_append, join, List.intercalate_cons_of_ne_nil nonempty]
    change first ++ [newline] ++ join (before ++ line :: after) = _
    rw [ih]
    simp [terminated]

theorem terminated_lines (text : Text) : terminated (lines text) = text ++ [newline] := by
  rcases List.eq_nil_or_concat (lines text) with none | ⟨before, last, split⟩
  · exact absurd none (lines_ne_nil text)
  · have whole := join_lines text
    rw [split, List.concat_eq_append, join_append_cons] at whole
    rw [split, ← whole]
    simp [terminated, preceded]

theorem extent_lines (text : Text) : extent (lines text) = text.length + 1 := by
  rw [← length_terminated, terminated_lines, List.length_append, List.length_singleton]

theorem newline_not_mem {text line : Text} (member : line ∈ lines text) : newline ∉ line := by
  induction text generalizing line with
  | nil =>
    have empty : line = [] := List.mem_singleton.mp member
    simp [empty]
  | cons c text ih =>
    obtain ⟨first, rest, split⟩ := List.exists_cons_of_ne_nil (lines_ne_nil text)
    rw [lines, List.splitOn_cons_eq_if_modifyHead] at member
    change line ∈ if (c == newline) = true then [] :: lines text
      else (lines text).modifyHead (List.cons c) at member
    by_cases ends : c = newline
    · rw [if_pos (beq_iff_eq.mpr ends)] at member
      rcases List.mem_cons.mp member with rfl | later
      · exact List.not_mem_nil
      · exact ih later
    · rw [if_neg (fun same => ends (beq_iff_eq.mp same)), split, List.modifyHead_cons] at member
      rcases List.mem_cons.mp member with rfl | later
      · have clean : newline ∉ first := ih (split ▸ List.mem_cons_self ..)
        simp [Ne.symm ends, clean]
      · exact ih (split ▸ List.mem_cons_of_mem _ later)

theorem line?_eq_some_iff {lines : List Text} {number : Int} {line : Text} :
    line? lines number = some line ↔
      ∃ before after, lines = before ++ line :: after ∧ number = before.length + 1 := by
  refine ⟨?_, ?_⟩
  · intro found
    unfold line? at found
    split at found
    · cases found
    · rename_i positive
      obtain ⟨inside, same⟩ := List.getElem?_eq_some_iff.mp found
      refine ⟨lines.take (number - 1).toNat, lines.drop ((number - 1).toNat + 1), ?_, ?_⟩
      · rw [← same, List.getElem_cons_drop, List.take_append_drop]
      · rw [List.length_take]
        omega
  · intro split
    obtain ⟨before, after, rfl, rfl⟩ := split
    have positive : ¬ (before.length + 1 : Int) < 1 := by omega
    have index : ((before.length + 1 : Int) - 1).toNat = before.length := by omega
    rw [line?, if_neg positive, index]
    simp

theorem lineStart_append (before : List Text) (line : Text) (after : List Text) :
    lineStart (before ++ line :: after) (before.length + 1) = extent before := by
  have index : (before.length + 1 : Int) - 1 = (before.length : Nat) := by omega
  have inside : before.length ≤ (before ++ line :: after).length := by simp
  rw [lineStart, index, Text.position_natCast inside, List.take_left']
  rfl

theorem lineStart_eq_extent_take {lines : List Text} {number : Int} (positive : 1 ≤ number) :
    lineStart lines number = extent (lines.take (number - 1).toNat) := by
  have ahead : ¬number - 1 < 0 := by omega
  rw [lineStart, Text.position, if_neg ahead, List.take_eq_take_iff.mpr]
  omega

/-- Documents that agree up to a line have the same line there, and it starts at the same offset. -/
theorem line?_of_take_eq {old new : List Text} {number : Int} {line : Text}
    (same : new.take number.toNat = old.take number.toNat) (isLine : line? old number = some line) :
    line? new number = some line ∧ lineStart new number = lineStart old number := by
  obtain ⟨before, after, rfl, rfl⟩ := line?_eq_some_iff.mp isLine
  have count : (before.length + 1 : Int).toNat = before.length + 1 := by omega
  have upTo : (before ++ line :: after).take (before.length + 1) = before ++ [line] := by
    rw [List.take_length_add_append]
    rfl
  have whole := List.take_append_drop (before.length + 1) new
  rw [count, upTo] at same
  rw [same, List.append_assoc, List.singleton_append] at whole
  rw [← whole, lineStart_append, lineStart_append]
  exact ⟨line?_eq_some_iff.mpr ⟨before, _, rfl, rfl⟩, rfl⟩

theorem slice_inside (head text tail : Text) {start stop : Nat} (ordered : start ≤ stop)
    (inside : stop ≤ text.length) :
    Text.slice (head ++ (text ++ tail)) (head.length + start : Nat) (head.length + stop : Nat) =
      (text.take stop).drop start := by
  have fits : head.length + stop ≤ (head ++ (text ++ tail)).length := by
    simp only [List.length_append]
    omega
  rw [Text.slice_natCast _ (Nat.add_le_add_left ordered _) fits, List.take_length_add_append,
    List.drop_length_add_append, List.take_append_of_le_length inside]

theorem slice_line {document line : Text} {number : Int} {start stop : Nat}
    (stands : line? (lines document) number = some line) (ordered : start ≤ stop)
    (inside : stop ≤ line.length) :
    Text.slice document (lineStart (lines document) number + start : Nat)
      (lineStart (lines document) number + stop : Nat) = (line.take stop).drop start := by
  obtain ⟨before, after, split, rfl⟩ := line?_eq_some_iff.mp stands
  have around : document = terminated before ++ (line ++ preceded after) := by
    rw [← join_append_cons, ← split, join_lines]
  rw [split, lineStart_append, around, ← length_terminated]
  exact slice_inside (terminated before) line (preceded after) ordered inside

/-!
Where a scan of lines stands with respect to fences. What a fence covers depends on nothing but
whether the scan is inside a block, and after some lines that is the parity of their markers.
-/

@[simp] theorem isMarker_fence : isMarker fence = true := by decide

namespace FenceState

variable {state other : FenceState}

theorem covers_congr (same : other.inside = state.inside) (line : Text) :
    other.covers line = state.covers line := by
  rw [covers, covers, same]

theorem inside_step (state : FenceState) (line : Text) :
    (state.step line).inside = (state.inside ^^ isMarker line) := by
  unfold step
  by_cases marker : isMarker line = true
  · rw [if_pos marker, marker, Bool.xor_true]
  · rw [if_neg marker, Bool.eq_false_iff.mpr marker, Bool.xor_false]

theorem inside_step_congr (same : other.inside = state.inside) (line : Text) :
    (other.step line).inside = (state.step line).inside := by
  rw [inside_step, inside_step, same]

theorem step_eq_self {line : Text} (notMarker : isMarker line = false) (state : FenceState) :
    state.step line = state := by
  rw [step, notMarker]
  rfl

theorem covers_eq_false_iff {line : Text} :
    state.covers line = false ↔ isMarker line = false ∧ state.inside = false := by
  rw [covers, Bool.or_eq_false_iff]

theorem inside_after (state : FenceState) (lines : List Text) :
    (state.after lines).inside = (state.inside ^^ endsInside lines) := by
  induction lines generalizing state with
  | nil => exact (Bool.xor_false state.inside).symm
  | cons line rest ih =>
    have parity : endsInside (line :: rest) = (isMarker line ^^ endsInside rest) := by
      simp only [endsInside, countMarkers, List.countP_cons]
      rcases Nat.mod_two_eq_zero_or_one (rest.countP isMarker) with even | odd
      · cases isMarker line <;> simp [Nat.add_mod, even]
      · cases isMarker line <;> simp [Nat.add_mod, odd]
    rw [parity, ← Bool.xor_assoc, ← inside_step]
    exact ih (state.step line)

theorem getElem?_covered (state : FenceState) (lines : List Text) (i : Nat) :
    (state.covered lines)[i]? = lines[i]?.map (state.after (lines.take i)).covers := by
  induction lines generalizing state i with
  | nil => rfl
  | cons line rest ih =>
    cases i with
    | zero => rfl
    | succ i => exact ih (state.step line) i

theorem getElem?_trace (state : FenceState) (lines : List Text) (i : Nat) :
    (state.trace lines)[i]? =
      lines[i]?.map fun line => (isMarker line, state.after (lines.take (i + 1))) := by
  induction lines generalizing state i with
  | nil => rfl
  | cons line rest ih =>
    cases i with
    | zero => rfl
    | succ i => exact ih (state.step line) i

theorem markers_step (state : FenceState) (line : Text) :
    (state.step line).markers = state.markers + countMarkers [line] := by
  unfold step
  split <;> simp [countMarkers, *]

theorem markers_after (state : FenceState) (lines : List Text) :
    (state.after lines).markers = state.markers + countMarkers lines := by
  induction lines generalizing state with
  | nil => simp [after, countMarkers]
  | cons line rest ih =>
    calc
      (state.after (line :: rest)).markers = (state.step line).markers + countMarkers rest :=
        ih (state.step line)
      _ = state.markers + countMarkers (line :: rest) := by
        have parts : countMarkers (line :: rest) = countMarkers [line] + countMarkers rest := by
          simp [countMarkers, List.countP_cons, Nat.add_comm]
        rw [markers_step, parts, Int.natCast_add, Int.add_assoc]

end FenceState

theorem endsInside_iff (lines : List Text) :
    endsInside lines = true ↔ countMarkers lines % 2 = 1 := beq_iff_eq

theorem endsInside_eq_inside_after (lines : List Text) :
    endsInside lines = (FenceState.after {} lines).inside := by
  rw [FenceState.inside_after, Bool.false_xor]

theorem endsInside_append (first second : List Text) :
    endsInside (first ++ second) = (endsInside first ^^ endsInside second) := by
  rw [endsInside_eq_inside_after, FenceState.after, List.foldl_append, endsInside_eq_inside_after first]
  exact FenceState.inside_after _ second

theorem inside_after_of_closed {upper : List Text} (closed : endsInside upper = false) :
    (FenceState.after {} upper).inside = (({} : FenceState)).inside := by
  rw [← endsInside_eq_inside_after, closed]

/-- Each line has one flag. It is set if the line is a marker, or if an odd number of markers stands
before it. A scan of the lines counts their markers, and it ends inside a block exactly if that
count is odd; then the last block is not closed, and a further line that is no marker is covered. -/
theorem covered_iff_odd_markers (lines : List Text) :
    let last := FenceState.after {} lines
    (covered lines).length = lines.length ∧
      (∀ i line, lines[i]? = some line →
        ((covered lines)[i]? = some true ↔
          isMarker line = true ∨ countMarkers (lines.take i) % 2 = 1)) ∧
      (∀ i line, lines[i]? = some line →
        (FenceState.trace {} lines)[i]? =
          some (isMarker line, FenceState.after {} (lines.take (i + 1)))) ∧
      last.markers = countMarkers lines ∧
      (last.inside = true ↔ last.markers % 2 = 1) ∧
      last.inside = endsInside lines ∧
      ∀ line, isMarker line = false → covered (lines ++ [line]) = covered lines ++ [last.inside] := by
  intro last
  have count : last.markers = countMarkers lines := by
    simpa using FenceState.markers_after {} lines
  have inside : last.inside = endsInside lines := (endsInside_eq_inside_after lines).symm
  refine ⟨length_covered {} lines, ?flags, ?steps, count, ?parity, inside, ?further⟩
  case flags =>
    intro i line isLine
    rw [covered, FenceState.getElem?_covered, isLine, Option.map_some, Option.some_inj,
      FenceState.covers, ← endsInside_eq_inside_after, Bool.or_eq_true, endsInside_iff]
  case steps =>
    intro i line isLine
    rw [FenceState.getElem?_trace, isLine, Option.map_some]
  case parity =>
    rw [inside, endsInside_iff, count]
    omega
  case further =>
    intro line notMarker
    rw [covered, covered_append, covered]
    simp [FenceState.covered, FenceState.covers, notMarker, last]

/-- The listing is closed after its only line; the block below it is not, so more text would be
covered too. -/
theorem covered_iff_odd_markers_unclosed :
    let lines := ["```lean", "def", "  ```", "text", "```"].map String.toList
    ((covered lines)[1]? = some true ↔
        isMarker "def".toList = true ∨ countMarkers (lines.take 1) % 2 = 1) ∧
      (FenceState.trace {} lines)[2]? = some (true, ⟨false, 2⟩) ∧
      covered (lines ++ ["more".toList]) = [true, true, true, false, true, true] := by
  intro lines
  obtain ⟨-, flags, steps, -, -, -, further⟩ := covered_iff_odd_markers lines
  refine ⟨flags 1 "def".toList rfl, ?_, ?_⟩
  · rw [steps 2 "  ```".toList rfl]
    decide
  · rw [further "more".toList (by decide)]
    decide

end MarkdownReview.Document
