import MarkdownReview.Proofs.Code.Pattern
import MarkdownReview.Proofs.Text.Occurrence
/-!
What a line is suspected for. Each shape of code is said by the parts that a text is made of, with
anything around them, and a line is suspected exactly if its trimmed text has one of the shapes.
-/

namespace MarkdownReview.Code

variable {text : Text}

theorem keywords_isIn_iff :
    Pattern.isIn { atStart := true, ways := [[.words keywords, .edge]] } text = true ↔
      ∃ keyword ∈ keywords, ∃ rest, keyword ++ rest = text ∧
        ∀ c ∈ rest.head?, Text.isWord c = false := by
  have endsInWord : keywords.all (fun keyword => keyword.getLast?.any Text.isWord) = true := by
    decide
  have ends {keyword : Text} (known : keyword ∈ keywords) (rest : Text) :
      isEdge (lastOf none keyword) rest.head? = true ↔ ∀ c ∈ rest.head?, Text.isWord c = false := by
    have last := List.all_eq_true.mp endsInWord keyword known
    rw [isEdge, lastOf, Option.or_none, last]
    cases rest <;> simp
  have spelled (before : Option Char) (part rest : Text) :
      Spells [.words keywords, .edge] before part rest ↔
        part ∈ keywords ∧ isEdge (lastOf before part) rest.head? = true := by
    simp [Spells, Piece.Takes]
  simp only [Pattern.isIn_iff, List.mem_singleton, exists_eq_left, spelled]
  constructor
  · intro stands
    obtain ⟨skipped, keyword, rest, rfl, first, -, known, edge⟩ := stands
    obtain rfl := first trivial
    exact ⟨keyword, known, rest, rfl, (ends known rest).mp edge⟩
  · intro stands
    obtain ⟨keyword, known, rest, rfl, edge⟩ := stands
    exact ⟨[], keyword, rest, rfl, fun _ => rfl, by simp, known, (ends known rest).mpr edge⟩

theorem mem_equals_of_arrow (found : Pattern.isIn { ways := [[word "=>"]] } text = true) :
    '=' ∈ text := by
  obtain ⟨skipped, part, rest, rfl, -, -, pieces, way, spelled⟩ := Pattern.isIn_iff.mp found
  rw [List.mem_singleton.mp way] at spelled
  obtain rfl : part = "=>".toList := by simpa [Spells, Piece.Takes, word] using spelled
  simp

theorem exists_last_word {run : Text} (nonempty : 1 ≤ run.length)
    (words : ∀ c ∈ run, Text.isWord c = true) :
    ∃ lead c, lead ++ [c] = run ∧ Text.isWord c = true := by
  obtain rfl | ⟨lead, c, rfl⟩ := List.eq_nil_or_concat run
  · exact absurd nonempty (by simp)
  · exact ⟨lead, c, List.concat_eq_append.symm, words c (by simp)⟩

section Member

inductive IsMember : Text → Prop
  | between {c d : Char} (before : Text.isWord c = true) (after : Text.isWord d = true) :
    IsMember [c, '.', d]

theorem spells_member_iff (before : Option Char) (part rest : Text) :
    Spells member before part rest ↔
      ∃ first second, first ++ '.' :: second = part ∧
        (1 ≤ first.length ∧ ∀ c ∈ first, Text.isWord c = true) ∧
        (1 ≤ second.length ∧ ∀ c ∈ second, Text.isWord c = true) := by
  simp [Spells, Piece.Takes, member, name]

theorem member_isIn_iff :
    Pattern.isIn { ways := withOptional member [.one ['.'], name] [] } text = true ↔
      ∃ member, IsMember member ∧ member <:+: text := by
  apply Pattern.isIn_iff_exists_core
  · intro pieces way before part rest spelled
    -- What comes after the second word in one of the two ways does not count.
    obtain ⟨more, rfl⟩ : ∃ more, member ++ more = pieces := by
      rcases List.mem_pair.mp way with rfl | rfl
      · exact ⟨_, rfl⟩
      · exact ⟨_, rfl⟩
    obtain ⟨_, later, rfl, spelled, -⟩ := spells_append_iff.mp spelled
    obtain ⟨first, second, rfl, firstWords, secondWords⟩ := (spells_member_iff ..).mp spelled
    obtain ⟨lead, c, rfl, before⟩ := exists_last_word firstWords.1 firstWords.2
    obtain ⟨d, tail, rfl⟩ := List.exists_cons_of_length_pos secondWords.1
    exact ⟨_, .between before (secondWords.2 d (List.mem_cons_self ..)), lead, tail ++ later,
      by simp⟩
  · intro core isMember
    obtain ⟨before, after⟩ := isMember
    refine ⟨member, by simp [withOptional], fun _ _ => ?_⟩
    exact (spells_member_iff ..).mpr ⟨[_], [_], rfl, by simpa using before, by simpa using after⟩

end Member

section Nested

/-- A parenthesis, and a second one before the first that closes. -/
inductive IsNested : Text → Prop
  | opens {outer inner : Text} (outerUnclosed : ')' ∉ outer) (innerUnclosed : ')' ∉ inner) :
    IsNested ('(' :: outer ++ '(' :: inner ++ [')'])

theorem spells_nested_iff (before : Option Char) (part rest : Text) :
    Spells nested before part rest ↔ IsNested part := by
  have spelled : Spells nested before part rest ↔
      ∃ outer inner, '(' :: outer ++ '(' :: inner ++ [')'] = part ∧ ')' ∉ outer ∧ ')' ∉ inner := by
    simp [Spells, Piece.Takes, nested, arguments, List.forall_mem_ne']
  rw [spelled]
  constructor
  · intro some
    obtain ⟨outer, inner, rfl, outerUnclosed, innerUnclosed⟩ := some
    exact .opens outerUnclosed innerUnclosed
  · intro nested
    obtain ⟨outerUnclosed, innerUnclosed⟩ := nested
    exact ⟨_, _, rfl, outerUnclosed, innerUnclosed⟩

theorem nested_isIn_iff :
    Pattern.isIn { ways := [nested] } text = true ↔
      ∃ nested, IsNested nested ∧ nested <:+: text := by
  apply Pattern.isIn_iff_exists_core
  · intro pieces way before part rest spelled
    rw [List.mem_singleton.mp way, spells_nested_iff] at spelled
    exact ⟨part, spelled, List.infix_refl part⟩
  · intro core isNested
    exact ⟨_, List.mem_singleton_self _, fun _ _ => (spells_nested_iff ..).mpr isNested⟩

theorem exists_nested_iff :
    (∃ nested, IsNested nested ∧ nested <:+: text) ↔
      ∃ before inner after, before ++ inner ++ ')' :: after = text ∧
        (∀ c ∈ before.getLast?, c = ')') ∧ ')' ∉ inner ∧ 2 ≤ inner.count '(' := by
  constructor
  · intro some
    obtain ⟨nested, ⟨outerUnclosed, innerUnclosed⟩, ahead, after, rfl⟩ := some
    rename_i outer inner
    obtain ⟨before, rest, rfl, ends, missing⟩ := Text.exists_last_cut ')' ahead
    refine ⟨before, rest ++ '(' :: outer ++ '(' :: inner, after, by simp, ends, ?_, ?_⟩
    · simp [missing, outerUnclosed, innerUnclosed]
    · simp only [List.count_append, List.count_cons_self]
      omega
  · intro some
    obtain ⟨before, inner, after, rfl, -, unclosed, twice⟩ := some
    have once : '(' ∈ inner := List.one_le_count_iff.mp (by omega)
    obtain ⟨lead, tail, rfl, first⟩ := List.eq_append_cons_of_mem once
    have again : '(' ∈ tail := by
      rw [List.count_append, List.count_cons_self, List.count_eq_zero_of_not_mem first] at twice
      exact List.one_le_count_iff.mp (by omega)
    obtain ⟨outer, between, rfl⟩ := List.append_of_mem again
    simp only [List.mem_append, List.mem_cons, not_or] at unclosed
    exact ⟨_, .opens unclosed.2.2.1 unclosed.2.2.2.2, before ++ lead, after, by simp⟩

end Nested

section Head

/-- Up to the mark that opens a body: a word character, arguments in parentheses with blanks before
and after them, and perhaps a colon. -/
inductive IsHead (mark : Char) : Text → Prop
  | opens {c : Char} {gap arguments space colon : Text} (word : Text.isWord c = true)
      (gapBlank : ∀ d ∈ gap, Text.isBlank d = true) (unclosed : ')' ∉ arguments)
      (spaceBlank : ∀ d ∈ space, Text.isBlank d = true) (perhaps : colon = [] ∨ colon = [':']) :
    IsHead mark (c :: gap ++ '(' :: arguments ++ ')' :: space ++ colon ++ [mark])

theorem spells_call_iff (before : Option Char) (part rest : Text) :
    Spells call before part rest ↔
      ∃ word gap inner space, word ++ gap ++ '(' :: inner ++ ')' :: space = part ∧
        (1 ≤ word.length ∧ ∀ c ∈ word, Text.isWord c = true) ∧
        (∀ c ∈ gap, Text.isBlank c = true) ∧ ')' ∉ inner ∧ ∀ c ∈ space, Text.isBlank c = true := by
  simp [Spells, Piece.Takes, call, name, anyBlanks, arguments, List.forall_mem_ne']

theorem head_isIn_iff :
    Pattern.isIn { ways := withOptional call [.one [':']] [.one bodyMarks] } text = true ↔
      ∃ head, (∃ mark ∈ bodyMarks, IsHead mark head) ∧ head <:+: text := by
  apply Pattern.isIn_iff_exists_core
  · intro pieces way before part rest spelled
    obtain ⟨one, colon, mark, rfl, known, perhaps, called⟩ :
        ∃ one colon mark, one ++ colon ++ [mark] = part ∧ mark ∈ bodyMarks ∧
          (colon = [] ∨ colon = [':']) ∧ Spells call before one (colon ++ mark :: rest) := by
      rcases List.mem_pair.mp way with rfl | rfl
      · rw [List.append_assoc, spells_append_iff] at spelled
        obtain ⟨one, two, rfl, called, body⟩ := spelled
        obtain ⟨mark, rfl, known⟩ : ∃ mark, [':', mark] = two ∧ mark ∈ bodyMarks := by
          simpa [Spells, Piece.Takes] using body
        exact ⟨one, [':'], mark, List.append_assoc .., known, Or.inr rfl, called⟩
      · rw [spells_append_iff] at spelled
        obtain ⟨one, two, rfl, called, body⟩ := spelled
        obtain ⟨mark, known, rfl⟩ := (spells_one_iff ..).mp body
        exact ⟨one, [], mark, by simp, known, Or.inl rfl, called⟩
    obtain ⟨word, gap, inner, space, rfl, words, gapBlank, unclosed, spaceBlank⟩ :=
      (spells_call_iff ..).mp called
    obtain ⟨lead, c, rfl, isWord⟩ := exists_last_word words.1 words.2
    exact ⟨_, ⟨mark, known, .opens isWord gapBlank unclosed spaceBlank perhaps⟩, lead, [], by simp⟩
  · intro head some
    obtain ⟨mark, known, isWord, gapBlank, unclosed, spaceBlank, perhaps⟩ := some
    rename_i c gap inner space colon
    have called (before : Option Char) (rest : Text) :
        Spells call before (c :: gap ++ '(' :: inner ++ ')' :: space) rest :=
      (spells_call_iff ..).mpr
        ⟨[c], gap, inner, space, rfl, by simpa using isWord, gapBlank, unclosed, spaceBlank⟩
    rcases perhaps with rfl | rfl
    · refine ⟨call ++ [.one bodyMarks], by simp [withOptional], fun before rest => ?_⟩
      rw [List.append_nil]
      exact spells_append_iff.mpr
        ⟨_, _, rfl, called _ _, (spells_one_iff ..).mpr ⟨mark, known, rfl⟩⟩
    · refine ⟨call ++ [.one [':'], .one bodyMarks], by simp [withOptional], fun before rest => ?_⟩
      rw [List.append_assoc]
      exact spells_append_iff.mpr ⟨_, _, rfl, called _ _, by simp [Spells, Piece.Takes, known]⟩

end Head

/-- A line is suspected exactly if what it holds between the blanks at its ends starts with a
keyword, contains an equals sign or a bracket, ends with a semicolon, starts with a dollar sign, or
contains a member, nested parentheses, or the head of a block up to a brace or an arrow head. -/
theorem isSuspect_iff (line : Text) :
    let text := Text.trim line
    isSuspect line = true ↔
      (∃ keyword ∈ keywords, ∃ rest, keyword ++ rest = text ∧
        ∀ c ∈ rest.head?, Text.isWord c = false) ∨
      ('=' ∈ text ∨ '[' ∈ text ∨ ']' ∈ text) ∨
      text.getLast? = some ';' ∨
      text.head? = some '$' ∨
      (∃ member, IsMember member ∧ member <:+: text) ∨
      (∃ before inner after, before ++ inner ++ ')' :: after = text ∧
        (∀ c ∈ before.getLast?, c = ')') ∧ ')' ∉ inner ∧ 2 ≤ inner.count '(') ∨
      ∃ head, (IsHead '\x7b' head ∨ IsHead '>' head) ∧ head <:+: text := by
  intro text
  have unbroken : text.getLast? ≠ some '\n' := by
    intro last
    have visible := Text.visible_of_mem_getLast?_trim '\n' last
    exact absurd visible (by decide)
  have heads : (∃ head, (∃ mark ∈ bodyMarks, IsHead mark head) ∧ head <:+: text) ↔
      (∃ head, IsHead '=' head ∧ head <:+: text) ∨
        ∃ head, (IsHead '\x7b' head ∨ IsHead '>' head) ∧ head <:+: text := by
    simp only [bodyMarks, List.exists_mem_cons_iff]
    grind
  -- A head that ends with an equals sign adds nothing, nor does an arrow: the sign alone is enough.
  have equals : (∃ head, IsHead '=' head ∧ head <:+: text) → '=' ∈ text := by
    intro some
    obtain ⟨head, ⟨⟩, inside⟩ := some
    exact inside.mem (by simp)
  have arrow : Pattern.isIn { ways := [[word "=>"]] } text = true → '=' ∈ text :=
    mem_equals_of_arrow
  simp only [isSuspect, shapes, List.any_cons, List.any_nil, Bool.or_false, Bool.or_eq_true,
    keywords_isIn_iff, head_isIn_iff, member_isIn_iff, Pattern.one_isIn_iff,
    Pattern.one_isIn_atStart_iff, nested_isIn_iff, exists_nested_iff, List.mem_cons,
    List.not_mem_nil, or_false, exists_eq_or_imp, exists_eq_left]
  rw [show Text.trim line = text from rfl, Pattern.one_isIn_atEnd_iff unbroken, heads]
  simp only [List.mem_singleton, exists_eq_left]
  grind

-- Only a whole word is a keyword, and parentheses nest if the second opens before one closes.
example :
    ["import", "importing (a) (b)", "f(g(x", "see (x (y) z", "f () :>"].map
      (fun line => isSuspect line.toList) = [true, false, false, true, true] := by
  decide +kernel

end MarkdownReview.Code
