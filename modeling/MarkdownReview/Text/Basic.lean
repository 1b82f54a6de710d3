/-!
Text is a list of characters, so every length, offset and cut counts characters. Offsets that come
from outside may be negative, which counts from the end, and are clamped to the text.
-/

namespace MarkdownReview

abbrev Text := List Char

namespace Text

def position (length : Nat) (offset : Int) : Nat :=
  if offset < 0 then (length + offset).toNat else min length offset.toNat

def slice (text : Text) (start stop : Int) : Text :=
  (text.take (position text.length stop)).drop (position text.length start)

def upTo (text : Text) (stop : Int) : Text :=
  text.take (position text.length stop)

theorem position_natCast {length offset : Nat} (h : offset ≤ length) :
    position length offset = offset := by
  unfold position
  split <;> omega

theorem slice_natCast (text : Text) {start stop : Nat} (ordered : start ≤ stop)
    (h : stop ≤ text.length) : slice text start stop = (text.take stop).drop start := by
  rw [slice, position_natCast h, position_natCast (Nat.le_trans ordered h)]

def find? (needle : Text) : Text → Option Nat
  | [] => if needle.isEmpty then some 0 else none
  | c :: rest => if needle.isPrefixOf (c :: rest) then some 0 else (find? needle rest).map (· + 1)

def ellipsis : Text := "...".toList

def within (limit : Option Int) (text : Text) : Text :=
  match limit with
  | none => text
  | some stop => upTo text stop

/-- A text no longer than the limit is kept, a longer one is cut there and marked. -/
def preview (limit : Option Int) (text : Text) : Text :=
  match limit with
  | none => text
  | some stop => if (text.length : Int) ≤ stop then text else upTo text stop ++ ellipsis

theorem within_isPrefix (limit : Option Int) (text : Text) : within limit text <+: text := by
  cases limit with
  | none => exact List.prefix_rfl
  | some stop => exact List.take_prefix _ _

def decimal (n : Nat) : Text := Nat.toDigits 10 n

end Text
end MarkdownReview

/-!
Classes of characters given by ranges of code points in ascending order, both ends included. A
search stops at the first range that starts too late.
-/

namespace MarkdownReview.Text

abbrev Ranges := List (Nat × Nat)

namespace Ranges

def has : Ranges → Nat → Bool
  | [], _ => false
  | (lo, hi) :: rest, n => if n < lo then false else n ≤ hi || has rest n

/-- Each range is nonempty, and starts at `least` or past the end of the one before. -/
def ascendsFrom : (least : Nat) → Ranges → Bool
  | _, [] => true
  | least, (lo, hi) :: rest => least ≤ lo && lo ≤ hi && ascendsFrom (hi + 1) rest

theorem least_le_of_mem {least : Nat} {ranges : Ranges} {range : Nat × Nat}
    (ascends : ascendsFrom least ranges = true) (member : range ∈ ranges) : least ≤ range.1 := by
  induction ranges generalizing least with
  | nil => simp at member
  | cons first rest ih =>
    obtain ⟨lo, hi⟩ := first
    simp only [ascendsFrom, Bool.and_eq_true, decide_eq_true_eq] at ascends
    obtain ⟨⟨above, nonempty⟩, later⟩ := ascends
    rcases List.mem_cons.mp member with rfl | member
    · exact above
    · have := ih later member
      omega

theorem has_iff {least n : Nat} {ranges : Ranges} (ascends : ascendsFrom least ranges = true) :
    ranges.has n = true ↔ ∃ range ∈ ranges, range.1 ≤ n ∧ n ≤ range.2 := by
  induction ranges generalizing least with
  | nil => simp [has]
  | cons first rest ih =>
    obtain ⟨lo, hi⟩ := first
    have later : ascendsFrom (hi + 1) rest = true := by
      simp only [ascendsFrom, Bool.and_eq_true] at ascends
      exact ascends.2
    have ordered : lo ≤ hi := by
      simp only [ascendsFrom, Bool.and_eq_true, decide_eq_true_eq] at ascends
      exact ascends.1.2
    simp only [has, List.mem_cons]
    by_cases below : n < lo
    · constructor
      · intro found
        simp [below] at found
      · rintro ⟨range, rfl | member, inside⟩
        · exact absurd below (Nat.not_lt.mpr inside.1)
        · have := least_le_of_mem later member
          omega
    · rw [if_neg below, Bool.or_eq_true, decide_eq_true_eq, ih later]
      constructor
      · rintro (inside | ⟨range, member, bounds⟩)
        · exact ⟨(lo, hi), Or.inl rfl, Nat.not_lt.mp below, inside⟩
        · exact ⟨range, Or.inr member, bounds⟩
      · rintro ⟨range, rfl | member, bounds⟩
        · exact Or.inl bounds.2
        · exact Or.inr ⟨range, member, bounds⟩

end Ranges

/-!
Blank characters, the text that is left when the blanks at its ends are dropped or those in a row
are made one, and the tokens between blanks.
-/

/-- Tab to carriage return, the four separators before the space, the space, next line and the
spaces and line separators of wider scripts. -/
def blankRanges : Ranges :=
  [(0x09, 0x0D), (0x1C, 0x20), (0x85, 0x85), (0xA0, 0xA0), (0x1680, 0x1680), (0x2000, 0x200A),
   (0x2028, 0x2029), (0x202F, 0x202F), (0x205F, 0x205F), (0x3000, 0x3000)]

theorem blankRanges_ascends : blankRanges.ascendsFrom 0 = true := by decide

def isBlank (c : Char) : Bool := blankRanges.has c.toNat

def trimStart (text : Text) : Text := text.dropWhile isBlank

def trimEnd (text : Text) : Text := (text.reverse.dropWhile isBlank).reverse

def trim (text : Text) : Text := trimEnd (trimStart text)

/-- Each run of blanks becomes one mark; `inRun` says that the character before was a blank. -/
def joinBlanks (mark : Char) : (inRun : Bool) → Text → Text
  | _, [] => []
  | inRun, c :: rest =>
    if isBlank c then
      if inRun then joinBlanks mark true rest else mark :: joinBlanks mark true rest
    else c :: joinBlanks mark false rest

def tidied (text : Text) : Text := trim (joinBlanks ' ' false text)

def tokens (text : Text) : List Text := (text.splitOnP isBlank).filter fun run => !run.isEmpty

theorem tokens_append_blank {c : Char} (blank : isBlank c = true) (first second : Text) :
    tokens (first ++ c :: second) = tokens first ++ tokens second := by
  unfold tokens
  rw [List.splitOnP_append_cons first second blank, List.filter_append]

end MarkdownReview.Text
