import MarkdownReview.Text.Basic
/-!
A document as lines between newlines. A newline belongs to no line, so a document of `n` newlines
has `n + 1` lines, and each line but the first starts one character past the end of the one before.
-/

namespace MarkdownReview.Document

def newline : Char := '\n'

def lines (text : Text) : List Text := text.splitOn newline

def join (lines : List Text) : Text := List.intercalate [newline] lines

def extent : List Text → Nat
  | [] => 0
  | line :: rest => line.length + 1 + extent rest

/-- The offset at which a line starts, its number counted from one. -/
def lineStart (lines : List Text) (number : Int) : Nat :=
  extent (lines.take (Text.position lines.length (number - 1)))

def line? (lines : List Text) (number : Int) : Option Text :=
  if number < 1 then none else lines[(number - 1).toNat]?

theorem lines_ne_nil (text : Text) : lines text ≠ [] := List.splitOn_ne_nil newline text

theorem join_lines (text : Text) : join (lines text) = text := List.intercalate_splitOn newline

theorem lines_append_newline (first second : Text) :
    lines (first ++ newline :: second) = lines first ++ lines second :=
  List.splitOnP_append_cons first second (by simp)

/-!
Fenced blocks. A marker line opens a block or closes the open one; it is covered itself, and so is
every line of an open block, to the end of the document where none closes it.
-/

def tick : Char := '\x60'

def fence : Text := [tick, tick, tick]

def isMarker (line : Text) : Bool := fence.isPrefixOf (Text.trim line)

/-- Where a scan of lines stands: in a block or not, and how many markers it has met. -/
structure FenceState where
  inside : Bool := false
  markers : Int := 0
deriving DecidableEq, Repr

namespace FenceState

def step (state : FenceState) (line : Text) : FenceState :=
  if isMarker line then ⟨!state.inside, state.markers + 1⟩ else state

def covers (state : FenceState) (line : Text) : Bool := isMarker line || state.inside

def covered : FenceState → List Text → List Bool
  | _, [] => []
  | state, line :: rest => state.covers line :: covered (state.step line) rest

def trace : FenceState → List Text → List (Bool × FenceState)
  | _, [] => []
  | state, line :: rest => (isMarker line, state.step line) :: trace (state.step line) rest

def after (state : FenceState) (lines : List Text) : FenceState := lines.foldl step state

end FenceState

def covered (lines : List Text) : List Bool := FenceState.covered {} lines

def countMarkers (lines : List Text) : Nat := lines.countP isMarker

def endsInside (lines : List Text) : Bool := countMarkers lines % 2 == 1

theorem length_covered (state : FenceState) (lines : List Text) :
    (state.covered lines).length = lines.length := by
  induction lines generalizing state with
  | nil => rfl
  | cons line rest ih => simp [FenceState.covered, ih]

theorem covered_append (state : FenceState) (first second : List Text) :
    state.covered (first ++ second) =
      state.covered first ++ (state.after first).covered second := by
  induction first generalizing state with
  | nil => rfl
  | cons line rest ih => simp [FenceState.covered, FenceState.after, ih]

/-!
Inline code. A span opens at an unescaped run of ticks and closes at the next run of the same
length; a run that nothing closes is plain text.
-/

structure Span where
  start : Nat
  stop : Nat
deriving DecidableEq, Repr

def rangesMeet (first second : Int × Int) : Bool :=
  first.1 < second.2 && second.1 < first.2

def Span.range (span : Span) : Int × Int := (span.start, span.stop)

def Span.meets (span other : Span) : Bool := rangesMeet span.range other.range

theorem meets_eq_false_iff {span other : Span} :
    span.meets other = false ↔ other.stop ≤ span.start ∨ span.stop ≤ other.start := by
  unfold Span.meets rangesMeet Span.range
  rw [Bool.and_eq_false_iff, decide_eq_false_iff_not, decide_eq_false_iff_not]
  omega

def backslash : Char := '\\'

def endsInEscape (text : Text) : Bool :=
  (text.reverse.takeWhile (· == backslash)).length % 2 == 1

/-- Whether backslashes escape the character at an offset; nothing is known past the end. -/
def escaped? (text : Text) (offset : Int) : Option Bool :=
  if (text.length : Int) < offset then none else some (endsInEscape (text.take offset.toNat))

/-- The offset just past the next maximal run of exactly `width` ticks. The run that is being read
has `seen` ticks so far. -/
def closing (width : Nat) : (seen offset : Nat) → Text → Option Nat
  | seen, offset, [] => if seen = width then some offset else none
  | seen, offset, c :: rest =>
    if c = tick then closing width (seen + 1) (offset + 1) rest
    else if seen = width then some offset
    else closing width 0 (offset + 1) rest

/-- The spans of a text that stands at `offset`. The next `skip` characters belong to a run or a
span before; `escape` says that backslashes before the text escape its first character. -/
def spansFrom : (skip offset : Nat) → (escape : Bool) → Text → List Span
  | _, _, _, [] => []
  | skip + 1, offset, _, _ :: rest => spansFrom skip (offset + 1) false rest
  | 0, offset, escape, c :: rest =>
    if c = tick then
      if escape then spansFrom 0 (offset + 1) false rest
      else
        let width := (rest.takeWhile (· == tick)).length + 1
        match closing width 0 0 (rest.dropWhile (· == tick)) with
        | none => spansFrom (width - 1) (offset + 1) false rest
        | some past =>
          ⟨offset, offset + width + past⟩ ::
            spansFrom (width + past - 1) (offset + 1) false rest
    else spansFrom 0 (offset + 1) (c == backslash && !escape) rest

def codeSpans (text : Text) : List Span := spansFrom 0 0 false text

end MarkdownReview.Document
