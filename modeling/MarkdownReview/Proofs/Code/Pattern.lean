import Mathlib.Data.List.Infix
import Mathlib.Data.List.TakeWhile
import MarkdownReview.Proofs.Code.Reading
/-!
What patterns find. The parts that pieces can take are said without an order of trying. A pattern
is in a text exactly if some part of the text can be taken, and one for which nothing around the
part counts is in every text that contains one of its parts.
-/

namespace MarkdownReview.Code

section Reading

def lastOf (before : Option Char) (part : Text) : Option Char := part.getLast?.or before

/-- The parts that a piece may take between the character before them and the rest of a text. -/
def Piece.Takes (before : Option Char) (part rest : Text) : Piece → Prop
  | edge => part = [] ∧ isEdge before rest.head? = true
  | words alternatives => part ∈ alternatives
  | run least belongs => least ≤ part.length ∧ ∀ c ∈ part, belongs c = true
  | one choices => ∃ c ∈ choices, part = [c]

/-- The pieces take a part together, one after the other. -/
def Spells : List Piece → (before : Option Char) → (part rest : Text) → Prop
  | [], _, part, _ => part = []
  | piece :: pieces, before, part, rest =>
    ∃ first later, first ++ later = part ∧ piece.Takes before first (later ++ rest) ∧
      Spells pieces (lastOf before first) later rest

variable {before : Option Char} {ahead text : Text} {next : Option Char → Text → Bool}

theorem lastOf_nil (before : Option Char) : lastOf before [] = before := rfl

theorem lastOf_append (before : Option Char) (first second : Text) :
    lastOf before (first ++ second) = lastOf (lastOf before first) second := by
  rw [lastOf, List.getLast?_append, Option.or_assoc]
  rfl

theorem lastOf_cons (before : Option Char) (c : Char) (part : Text) :
    lastOf before (c :: part) = lastOf (some c) part := lastOf_append before [c] part

theorem runReads_iff {belongs : Char → Bool} {least : Nat} :
    runReads belongs next least before ahead = true ↔
      ∃ part rest, part ++ rest = ahead ∧
        (least ≤ part.length ∧ ∀ c ∈ part, belongs c = true) ∧
        next (lastOf before part) rest = true := by
  induction ahead generalizing least before with
  | nil => simp [runReads, lastOf]
  | cons c ahead ih =>
    rw [runReads, Bool.or_eq_true, Bool.and_eq_true, Bool.and_eq_true, beq_iff_eq, ih]
    constructor
    · intro either
      rcases either with ⟨belongs, part, rest, rfl, ⟨enough, inside⟩, goesOn⟩ | ⟨rfl, goesOn⟩
      · refine ⟨c :: part, rest, rfl, ⟨?_, List.forall_mem_cons.mpr ⟨belongs, inside⟩⟩, ?_⟩
        · exact Nat.le_add_of_sub_le enough
        · rwa [lastOf_cons]
      · exact ⟨[], c :: ahead, rfl, ⟨Nat.zero_le _, by simp⟩, goesOn⟩
    · intro taken
      obtain ⟨part, rest, whole, ⟨enough, inside⟩, goesOn⟩ := taken
      cases part with
      | nil =>
        rw [List.nil_append] at whole
        subst whole
        exact Or.inr ⟨Nat.le_zero.mp enough, goesOn⟩
      | cons d part =>
        obtain ⟨rfl, rfl⟩ := List.cons.inj whole
        rw [List.forall_mem_cons] at inside
        rw [lastOf_cons] at goesOn
        exact Or.inl
          ⟨inside.1, part, rest, rfl, ⟨Nat.sub_le_of_le_add enough, inside.2⟩, goesOn⟩

theorem Piece.reads_iff {piece : Piece} :
    piece.reads next before ahead = true ↔
      ∃ part rest, part ++ rest = ahead ∧ piece.Takes before part rest ∧
        next (lastOf before part) rest = true := by
  cases piece with
  | edge => simp [reads, Takes, lastOf_nil]
  | words alternatives =>
    rw [reads, List.any_eq_true]
    constructor
    · intro some
      obtain ⟨word, member, goesOn⟩ := some
      split at goesOn
      next => cases goesOn
      next rest starts =>
        exact ⟨word, rest, List.isPrefixOf?_eq_some_iff_append_eq.mp starts, member, goesOn⟩
    · intro taken
      obtain ⟨word, rest, whole, member, goesOn⟩ := taken
      refine ⟨word, member, ?_⟩
      rw [List.isPrefixOf?_eq_some_iff_append_eq.mpr whole]
      exact goesOn
  | run least belongs => exact runReads_iff
  | one choices =>
    cases ahead with
    | nil => simp [reads, Takes]
    | cons c ahead =>
      rw [reads, Bool.and_eq_true, List.contains_iff_mem]
      constructor
      · intro chosen
        exact ⟨[c], ahead, rfl, ⟨c, chosen.1, rfl⟩, chosen.2⟩
      · intro taken
        obtain ⟨part, rest, whole, ⟨d, chosen, rfl⟩, goesOn⟩ := taken
        obtain ⟨rfl, rfl⟩ := List.cons.inj whole
        exact ⟨chosen, goesOn⟩

theorem reads_iff {accepts : Text → Bool} {pieces : List Piece} :
    reads accepts pieces before ahead = true ↔
      ∃ part rest, part ++ rest = ahead ∧ Spells pieces before part rest ∧
        accepts rest = true := by
  induction pieces generalizing before ahead with
  | nil => simp [reads, Spells]
  | cons piece pieces ih =>
    rw [reads, Piece.reads_iff]
    simp only [ih]
    constructor
    · intro taken
      obtain ⟨first, _, rfl, takes, later, rest, rfl, spells, accepted⟩ := taken
      exact ⟨first ++ later, rest, List.append_assoc .., ⟨first, later, rfl, takes, spells⟩,
        accepted⟩
    · intro taken
      obtain ⟨_, rest, rfl, ⟨first, later, rfl, takes, spells⟩, accepted⟩ := taken
      exact ⟨first, later ++ rest, (List.append_assoc ..).symm, takes, later, rest, rfl, spells,
        accepted⟩

theorem spells_one_iff {choices : List Char} (before : Option Char) (part rest : Text) :
    Spells [.one choices] before part rest ↔ ∃ c ∈ choices, part = [c] := by
  simp [Spells, Piece.Takes]

theorem spells_append_iff {first second : List Piece} {part rest : Text} :
    Spells (first ++ second) before part rest ↔
      ∃ one two, one ++ two = part ∧ Spells first before one (two ++ rest) ∧
        Spells second (lastOf before one) two rest := by
  induction first generalizing before part with
  | nil => simp [Spells, lastOf_nil]
  | cons piece first ih =>
    simp only [List.cons_append, Spells, ih]
    constructor
    · intro taken
      obtain ⟨here, _, rfl, takes, one, two, rfl, spells, later⟩ := taken
      rw [← lastOf_append] at later
      rw [List.append_assoc] at takes
      exact ⟨here ++ one, two, List.append_assoc .., ⟨here, one, rfl, takes, spells⟩, later⟩
    · intro taken
      obtain ⟨_, two, rfl, ⟨here, one, rfl, takes, spells⟩, later⟩ := taken
      rw [lastOf_append] at later
      rw [← List.append_assoc] at takes
      exact ⟨here, one ++ two, (List.append_assoc ..).symm, takes, one, two, rfl, spells, later⟩

end Reading

section Readings

variable {before : Option Char} {ahead : Text} {pieces : List Piece} {width : Nat}

theorem Piece.mem_widths_iff {piece : Piece} :
    width ∈ piece.widths before ahead ↔
      ∃ part rest, part ++ rest = ahead ∧ part.length = width ∧ piece.Takes before part rest := by
  cases piece with
  | edge =>
    rw [widths]
    split
    next edge => simpa [Takes, edge] using eq_comm
    next inside => simp [Takes, inside]
  | words alternatives =>
    simp only [widths, List.mem_map, List.mem_filter, List.isPrefixOf_iff_prefix, Takes]
    constructor
    · intro some
      obtain ⟨word, ⟨known, rest, rfl⟩, rfl⟩ := some
      exact ⟨word, rest, rfl, rfl, known⟩
    · intro taken
      obtain ⟨word, rest, rfl, rfl, known⟩ := taken
      exact ⟨word, ⟨known, rest, rfl⟩, rfl⟩
  | run least belongs =>
    simp only [widths, List.mem_reverse, List.mem_range'_1, Takes]
    constructor
    · intro bounds
      have within : width ≤ (ahead.takeWhile belongs).length := by omega
      have prefixed := List.takeWhile_prefix (l := ahead) belongs
      refine ⟨ahead.take width, ahead.drop width, List.take_append_drop .., ?_, ?_, ?_⟩
      · rw [List.length_take]
        have := prefixed.length_le
        omega
      · rw [List.length_take]
        have := prefixed.length_le
        omega
      · intro c member
        obtain ⟨tail, whole⟩ := prefixed
        rw [← whole, List.take_append_of_le_length within] at member
        exact List.mem_takeWhile_imp (List.mem_of_mem_take member)
    · intro taken
      obtain ⟨part, rest, rfl, rfl, enough, inside⟩ := taken
      rw [List.takeWhile_append_of_pos inside, List.length_append]
      omega
  | one choices =>
    cases ahead with
    | nil => simp [widths, Takes]
    | cons c rest =>
      simp only [widths, Takes, List.head?_cons, Option.any_some, List.contains_iff_mem]
      constructor
      · intro taken
        split at taken
        next chosen =>
          rw [List.mem_singleton.mp taken]
          exact ⟨[c], rest, rfl, rfl, c, chosen, rfl⟩
        next => exact absurd taken List.not_mem_nil
      · intro taken
        obtain ⟨_, _, whole, rfl, d, chosen, rfl⟩ := taken
        obtain ⟨rfl, rfl⟩ := List.cons.inj whole
        rw [if_pos chosen]
        exact List.mem_singleton_self _

theorem lastTaken_append (part rest : Text) :
    lastTaken before (part ++ rest) part.length = lastOf before part := by
  obtain rfl | ⟨lead, c, rfl⟩ := List.eq_nil_or_concat part
  · rfl
  · simp [lastTaken, lastOf]

theorem mem_readings_iff :
    width ∈ readings pieces before ahead ↔
      ∃ part rest, part ++ rest = ahead ∧ part.length = width ∧ Spells pieces before part rest := by
  induction pieces generalizing before ahead width with
  | nil => simp [readings, Spells, eq_comm]
  | cons piece pieces ih =>
    simp only [readings, List.mem_flatMap, List.mem_map, ih, Piece.mem_widths_iff]
    constructor
    · intro taken
      obtain ⟨_, ⟨first, after, rfl, rfl, takes⟩, _, ⟨later, rest, whole, rfl, spells⟩, rfl⟩ := taken
      rw [List.drop_left] at whole
      subst whole
      rw [lastTaken_append] at spells
      exact ⟨first ++ later, rest, List.append_assoc .., List.length_append,
        ⟨first, later, rfl, takes, spells⟩⟩
    · intro taken
      obtain ⟨_, rest, rfl, rfl, first, later, rfl, takes, spells⟩ := taken
      refine ⟨_, ⟨first, later ++ rest, (List.append_assoc ..).symm, rfl, takes⟩, _,
        ⟨later, rest, ?_, rfl, ?_⟩, List.length_append.symm⟩
      · rw [List.append_assoc, List.drop_left]
      · rwa [List.append_assoc, lastTaken_append]

theorem reads_iff_readings_ne_nil :
    reads (fun _ => true) pieces before ahead = true ↔ readings pieces before ahead ≠ [] := by
  rw [reads_iff]
  constructor
  · intro taken
    obtain ⟨part, rest, whole, spells, -⟩ := taken
    exact List.ne_nil_of_mem (mem_readings_iff.mpr ⟨part, rest, whole, rfl, spells⟩)
  · intro nonempty
    obtain ⟨width, read⟩ := List.exists_mem_of_ne_nil _ nonempty
    obtain ⟨part, rest, whole, -, spells⟩ := mem_readings_iff.mp read
    exact ⟨part, rest, whole, spells, rfl⟩
end Readings

namespace Pattern

variable {pattern : Pattern} {ways : List (List Piece)} {before : Option Char} {ahead text : Text}

theorem standsAhead_iff :
    pattern.standsAhead before ahead = true ↔
      ∃ pieces ∈ pattern.ways, ∃ part rest, part ++ rest = ahead ∧ Spells pieces before part rest ∧
        (pattern.atEnd = true → isAtEnd rest = true) := by
  have accepted (rest : Text) : (!pattern.atEnd || isAtEnd rest) = true ↔
      (pattern.atEnd = true → isAtEnd rest = true) := by
    cases pattern.atEnd <;> simp
  simp only [standsAhead, List.any_eq_true, reads_iff, accepted]

theorem standsFrom_iff :
    pattern.standsFrom before text = true ↔
      ∃ skipped ahead, skipped ++ ahead = text ∧
        pattern.standsAhead (lastOf before skipped) ahead = true := by
  induction text generalizing before with
  | nil => simp [standsFrom, lastOf_nil]
  | cons c text ih =>
    rw [standsFrom, Bool.or_eq_true, ih]
    constructor
    · intro either
      rcases either with here | ⟨skipped, ahead, rfl, stands⟩
      · exact ⟨[], c :: text, rfl, here⟩
      · exact ⟨c :: skipped, ahead, rfl, by rwa [lastOf_cons]⟩
    · intro some
      obtain ⟨skipped, ahead, whole, stands⟩ := some
      cases skipped with
      | nil =>
        rw [List.nil_append] at whole
        subst whole
        exact Or.inl stands
      | cons d skipped =>
        obtain ⟨rfl, rfl⟩ := List.cons.inj whole
        rw [lastOf_cons] at stands
        exact Or.inr ⟨skipped, ahead, rfl, stands⟩

/-- A pattern is in a text exactly if one of the ways to write it spells some part of the text, and
that part stands at the start or the end if it has to. -/
theorem isIn_iff :
    pattern.isIn text = true ↔
      ∃ skipped part rest, skipped ++ part ++ rest = text ∧
        (pattern.atStart = true → skipped = []) ∧ (pattern.atEnd = true → isAtEnd rest = true) ∧
        ∃ pieces ∈ pattern.ways, Spells pieces skipped.getLast? part rest := by
  have last (skipped : Text) : lastOf none skipped = skipped.getLast? := Option.or_none
  unfold isIn
  split
  next atStart =>
    rw [standsAhead_iff]
    constructor
    · intro stands
      obtain ⟨pieces, way, part, rest, rfl, spells, ends⟩ := stands
      exact ⟨[], part, rest, rfl, fun _ => rfl, ends, pieces, way, spells⟩
    · intro stands
      obtain ⟨skipped, part, rest, rfl, first, ends, pieces, way, spells⟩ := stands
      obtain rfl := first atStart
      exact ⟨pieces, way, part, rest, rfl, spells, ends⟩
  next anywhere =>
    simp only [standsFrom_iff, standsAhead_iff, last]
    constructor
    · intro stands
      obtain ⟨skipped, _, rfl, pieces, way, part, rest, rfl, spells, ends⟩ := stands
      have first (atStart : pattern.atStart = true) : skipped = [] := absurd atStart anywhere
      exact ⟨skipped, part, rest, List.append_assoc .., first, ends, pieces, way, spells⟩
    · intro stands
      obtain ⟨skipped, part, rest, rfl, -, ends, pieces, way, spells⟩ := stands
      exact ⟨skipped, part ++ rest, (List.append_assoc ..).symm, pieces, way, part, rest, rfl,
        spells, ends⟩

theorem isIn_iff_exists_core {isCore : Text → Prop}
    (holds : ∀ pieces ∈ ways, ∀ before part rest, Spells pieces before part rest →
      ∃ core, isCore core ∧ core <:+: part)
    (spells : ∀ core, isCore core → ∃ pieces ∈ ways, ∀ before rest, Spells pieces before core rest) :
    Pattern.isIn { ways } text = true ↔ ∃ core, isCore core ∧ core <:+: text := by
  rw [isIn_iff]
  constructor
  · intro stands
    obtain ⟨skipped, part, rest, rfl, -, -, pieces, way, spelled⟩ := stands
    obtain ⟨core, isCore, inside⟩ := holds pieces way _ part rest spelled
    exact ⟨core, isCore, inside.trans ⟨skipped, rest, rfl⟩⟩
  · intro some
    obtain ⟨core, isCore, skipped, rest, rfl⟩ := some
    obtain ⟨pieces, way, spelled⟩ := spells core isCore
    exact ⟨skipped, core, rest, rfl, by simp, by simp, pieces, way, spelled _ _⟩

section One

variable {choices : List Char}

theorem one_isIn_iff :
    Pattern.isIn { ways := [[.one choices]] } text = true ↔ ∃ c ∈ choices, c ∈ text := by
  have holds : ∀ pieces ∈ [[Piece.one choices]], ∀ before part rest,
      Spells pieces before part rest → ∃ core, (∃ c ∈ choices, core = [c]) ∧ core <:+: part := by
    intro pieces way before part rest spelled
    rw [List.mem_singleton.mp way, spells_one_iff] at spelled
    exact ⟨part, spelled, List.infix_refl part⟩
  rw [isIn_iff_exists_core holds]
  · simp [List.singleton_infix_iff]
  · intro core isCore
    exact ⟨_, List.mem_singleton_self _, fun _ _ => (spells_one_iff ..).mpr isCore⟩

theorem one_isIn_atStart_iff :
    Pattern.isIn { atStart := true, ways := [[.one choices]] } text = true ↔
      ∃ c ∈ choices, text.head? = some c := by
  simp only [isIn_iff, List.mem_singleton, exists_eq_left, spells_one_iff]
  constructor
  · intro stands
    obtain ⟨skipped, _, rest, rfl, first, -, c, chosen, rfl⟩ := stands
    obtain rfl := first trivial
    exact ⟨c, chosen, rfl⟩
  · intro starts
    obtain ⟨c, chosen, first⟩ := starts
    obtain ⟨rest, rfl⟩ := List.head?_eq_some_iff.mp first
    exact ⟨[], [c], rest, rfl, fun _ => rfl, by simp, c, chosen, rfl⟩

theorem one_isIn_atEnd_iff (unbroken : text.getLast? ≠ some '\n') :
    Pattern.isIn { atEnd := true, ways := [[.one choices]] } text = true ↔
      ∃ c ∈ choices, text.getLast? = some c := by
  simp only [isIn_iff, List.mem_singleton, exists_eq_left, spells_one_iff]
  constructor
  · intro stands
    obtain ⟨skipped, _, rest, rfl, -, ends, c, chosen, rfl⟩ := stands
    have last := ends trivial
    simp only [isAtEnd, Bool.or_eq_true, beq_iff_eq] at last
    rcases last with rfl | rfl
    · exact ⟨c, chosen, by simp⟩
    · exact absurd (by simp) unbroken
  · intro ends
    obtain ⟨c, chosen, last⟩ := ends
    obtain ⟨skipped, rfl⟩ := List.getLast?_eq_some_iff.mp last
    exact ⟨skipped, [c], [], List.append_nil _, by simp, fun _ => rfl, c, chosen, rfl⟩

end One

end Pattern
end MarkdownReview.Code
