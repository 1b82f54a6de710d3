import MarkdownReview.Proofs.Heading.Deletion
/-!
Low lines in names. Where every run of low lines follows a word character no pair of them opens,
and where every run is followed by one no pair closes. Both stay so when other marks are taken out,
since no mark but the low line is a word character; so every low line stays.
-/

namespace MarkdownReview.PlainText

open Text (Thinned)

/-- A text in three parts, of which the middle one is a maximal run of low lines. -/
structure IsLowLineRun (text before run after : Text) : Prop where
  split : text = before ++ (run ++ after)
  nonempty : run ≠ []
  lowLines : ∀ c ∈ run, c = '_'
  begins : before.getLast? ≠ some '_'
  ends : after.head? ≠ some '_'

/-- Right before each run of low lines stands a word character that is none itself. -/
def RunsFollowWords (text : Text) : Prop :=
  ∀ before run after, IsLowLineRun text before run after →
    ∃ c ∈ before.getLast?, Text.isWord c = true ∧ c ≠ '_'

/-- Right after each run of low lines stands a word character that is none itself. -/
def RunsPrecedeWords (text : Text) : Prop :=
  ∀ before run after, IsLowLineRun text before run after →
    ∃ c ∈ after.head?, Text.isWord c = true ∧ c ≠ '_'

def leadsOn : Text → Bool
  | [] => true
  | c :: rest => (c != '_' || rest.head?.any Text.isWord) && leadsOn rest

variable {text left passed rest before run after : Text} {c : Char}

section Runs

theorem isWord_lowLine : Text.isWord '_' = true := rfl

theorem leadsOn_cons_iff :
    leadsOn (c :: rest) = true ↔
      (c = '_' → rest.head?.any Text.isWord = true) ∧ leadsOn rest = true := by
  rw [leadsOn, Bool.and_eq_true, Bool.or_eq_true, bne_iff_ne, ← imp_iff_not_or]

namespace IsLowLineRun

theorem reverse (isRun : IsLowLineRun text before run after) :
    IsLowLineRun text.reverse after.reverse run.reverse before.reverse := by
  refine ⟨?_, ?_, ?_, ?_, ?_⟩
  · simp [isRun.split]
  · simpa using isRun.nonempty
  · exact fun c member => isRun.lowLines c (List.mem_reverse.mp member)
  · rw [List.getLast?_reverse]
    exact isRun.ends
  · rw [List.head?_reverse]
    exact isRun.begins

theorem exists_cons (isRun : IsLowLineRun rest before run after) (c : Char) :
    ∃ before run, IsLowLineRun (c :: rest) before run after := by
  obtain ⟨rfl, nonempty, lowLines, begins, ends⟩ := isRun
  cases before with
  | cons first before =>
    exact ⟨c :: first :: before, run, rfl, nonempty, lowLines, begins, ends⟩
  | nil =>
    by_cases same : c = '_'
    · refine ⟨[], c :: run, rfl, List.cons_ne_nil c run, ?_, begins, ends⟩
      exact List.forall_mem_cons.mpr ⟨same, lowLines⟩
    · exact ⟨[c], run, rfl, nonempty, lowLines, by simpa using same, ends⟩

end IsLowLineRun

theorem runsPrecedeWords_of_leadsOn (leads : leadsOn text = true) : RunsPrecedeWords text := by
  induction text with
  | nil =>
    intro before run after isRun
    have empty := isRun.split
    simp [isRun.nonempty] at empty
  | cons c rest ih =>
    obtain ⟨here, later⟩ := leadsOn_cons_iff.mp leads
    intro before run after isRun
    obtain ⟨split, nonempty, lowLines, begins, ends⟩ := isRun
    cases before with
    | cons first before =>
      obtain ⟨-, rfl⟩ := List.cons.inj split
      refine ih later before run after ⟨rfl, nonempty, lowLines, ?_, ends⟩
      cases before with
      | nil => exact nofun
      | cons second before => exact begins
    | nil =>
      obtain ⟨first, run, rfl⟩ := List.exists_cons_of_ne_nil nonempty
      obtain ⟨rfl, rfl⟩ := List.cons.inj split
      have lowLinesLater := fun d member => lowLines d (List.mem_cons_of_mem _ member)
      cases run with
      | cons second run =>
        exact ih later [] (second :: run) after
          ⟨rfl, List.cons_ne_nil _ _, lowLinesLater, begins, ends⟩
      | nil =>
        obtain ⟨d, isNext, word⟩ :=
          (Option.any_eq_true _ _).mp (here (lowLines c (List.mem_cons_self ..)))
        refine ⟨d, isNext, word, ?_⟩
        rintro rfl
        exact ends isNext

theorem leadsOn_of_runsPrecedeWords (runs : RunsPrecedeWords text) : leadsOn text = true := by
  induction text with
  | nil => rfl
  | cons c rest ih =>
    have later : RunsPrecedeWords rest := by
      intro before run after isRun
      obtain ⟨before, run, whole⟩ := isRun.exists_cons c
      exact runs before run after whole
    refine leadsOn_cons_iff.mpr ⟨?_, ih later⟩
    rintro rfl
    by_cases again : rest.head? = some '_'
    · rw [again]
      exact isWord_lowLine
    · have alone : IsLowLineRun ('_' :: rest) [] ['_'] rest :=
        ⟨rfl, List.cons_ne_nil _ _, fun _ member => List.mem_singleton.mp member, nofun, again⟩
      obtain ⟨d, isNext, word, -⟩ := runs [] ['_'] rest alone
      exact (Option.any_eq_true _ _).mpr ⟨d, isNext, word⟩

theorem runsPrecedeWords_iff : RunsPrecedeWords text ↔ leadsOn text = true :=
  ⟨leadsOn_of_runsPrecedeWords, runsPrecedeWords_of_leadsOn⟩

theorem runsFollowWords_iff : RunsFollowWords text ↔ leadsOn text.reverse = true := by
  rw [← runsPrecedeWords_iff]
  constructor
  · intro runs before run after isRun
    have whole := isRun.reverse
    rw [List.reverse_reverse] at whole
    have found := runs _ _ _ whole
    rwa [List.getLast?_reverse] at found
  · intro runs before run after isRun
    have found := runs _ _ _ isRun.reverse
    rwa [List.head?_reverse] at found

instance : Decidable (RunsPrecedeWords text) := decidable_of_iff _ runsPrecedeWords_iff.symm

instance : Decidable (RunsFollowWords text) := decidable_of_iff _ runsFollowWords_iff.symm

end Runs

section Wrapper

variable {wrapper : Wrapper} {ahead : Text}

/-- A wrapper whose mark is low lines and that touches no word character outside. -/
structure Wrapper.IsLowLine (wrapper : Wrapper) : Prop where
  standsAlone : wrapper.standsAlone = true
  nonempty : wrapper.mark ≠ []
  lowLines : ∀ c ∈ wrapper.mark, c = '_'

theorem isLowLine_or_apart (member : wrapper ∈ wrappers) :
    wrapper.IsLowLine ∨ ∀ c ∈ wrapper.mark, Text.isWord c = false := by
  have star : Text.isWord '*' = false := by decide
  have tick : Text.isWord Document.tick = false := by decide
  simp only [wrappers, List.mem_cons, List.not_mem_nil, or_false] at member
  rcases member with rfl | rfl | rfl | rfl | rfl
  · exact Or.inr (by simp [star])
  · exact Or.inl ⟨rfl, List.cons_ne_nil _ _, by simp⟩
  · exact Or.inr (by simp [star])
  · exact Or.inl ⟨rfl, List.cons_ne_nil _ _, by simp⟩
  · exact Or.inr (by simp [tick])

theorem next_isWord_of_leadsOn (leads : leadsOn (passed ++ '_' :: rest) = true) :
    rest.head?.any Text.isWord = true := by
  induction passed with
  | nil => exact (leadsOn_cons_iff.mp leads).1 rfl
  | cons c passed ih => exact ih (leadsOn_cons_iff.mp leads).2

theorem Wrapper.IsLowLine.outside_eq_false (isLowLine : wrapper.IsLowLine) {neighbour : Option Char}
    (word : neighbour.any Text.isWord = true) : wrapper.outside neighbour = false := by
  rw [Wrapper.outside, isLowLine.standsAlone, word]
  rfl

theorem Wrapper.IsLowLine.not_closes (isLowLine : wrapper.IsLowLine)
    (leads : leadsOn (passed ++ (wrapper.mark ++ rest)) = true) :
    wrapper.outside rest.head? = false := by
  obtain ⟨first, last, ended⟩ :=
    (List.eq_nil_or_concat' wrapper.mark).resolve_left isLowLine.nonempty
  have isLast : last = '_' := isLowLine.lowLines last (by simp [ended])
  rw [ended, isLast, List.append_assoc, ← List.append_assoc] at leads
  exact isLowLine.outside_eq_false (next_isWord_of_leadsOn leads)

theorem Wrapper.IsLowLine.not_opens (isLowLine : wrapper.IsLowLine)
    (leads : leadsOn (passed ++ (wrapper.mark ++ rest)).reverse = true) :
    wrapper.outside passed.getLast? = false := by
  obtain ⟨first, more, started⟩ := List.exists_cons_of_ne_nil isLowLine.nonempty
  have isFirst : first = '_' := isLowLine.lowLines first (by simp [started])
  rw [started, isFirst, List.reverse_append, List.cons_append, List.reverse_cons, List.append_assoc,
    List.singleton_append] at leads
  rw [← List.head?_reverse]
  exact isLowLine.outside_eq_false (next_isWord_of_leadsOn leads)

def IsJoined (text : Text) : Prop := leadsOn text = true ∨ leadsOn text.reverse = true

theorem replace_rule_eq_self (isLowLine : wrapper.IsLowLine) (joined : IsJoined text) :
    replace wrapper.rule text = text := by
  refine replace_eq_self ?_
  rintro passed ahead rfl
  refine Option.eq_none_iff_forall_ne_some.mpr ?_
  intro found isFound
  obtain ⟨content, rest, unwraps, -⟩ := Wrapper.exists_unwraps_of_rule isFound
  rcases joined with leads | leads
  · have closes := unwraps.closes
    rw [unwraps.split, ← List.append_assoc, ← List.append_assoc] at leads
    rw [isLowLine.not_closes leads] at closes
    cases closes
  · have opens := unwraps.opens
    rw [unwraps.split] at leads
    rw [isLowLine.not_opens leads] at opens
    cases opens

end Wrapper

/-- The word character after a low line is still the next one when characters are taken out that are
no word characters. -/
theorem leadsOn_of_thinned (thinned : Thinned (Text.isWord · = false) text left)
    (leads : leadsOn text = true) : leadsOn left = true := by
  induction thinned with
  | nil => rfl
  | drop _ _ ih => exact ih (leadsOn_cons_iff.mp leads).2
  | keep c thinned ih =>
    obtain ⟨here, later⟩ := leadsOn_cons_iff.mp leads
    refine leadsOn_cons_iff.mpr ⟨?_, ih later⟩
    intro same
    obtain ⟨next, isNext, word⟩ := (Option.any_eq_true _ _).mp (here same)
    have stays : ¬Text.isWord next = false := by simp [word]
    exact (Option.any_eq_true _ _).mpr ⟨next, thinned.head?_eq isNext stays, word⟩

theorem isJoined_of_thinned (thinned : Thinned (Text.isWord · = false) text left)
    (joined : IsJoined text) : IsJoined left :=
  joined.imp (leadsOn_of_thinned thinned) (leadsOn_of_thinned thinned.reverse)

theorem thinned_unwrap_of_isJoined (joined : IsJoined text) :
    Thinned (Text.isWord · = false) text (unwrap text) := by
  refine thinned_foldl IsJoined ?_ (fun _ _ => isJoined_of_thinned) joined
  intro wrapper member text joined
  rcases isLowLine_or_apart member with isLowLine | apart
  · rw [replace_rule_eq_self isLowLine joined]
    exact Thinned.refl _ text
  · exact thinned_replace (Wrapper.deletes_rule apart) text

/-- Low lines in names survive: where there are no links and every run of low lines follows a word
character, or every run is followed by one, the plain text has as many low lines as the text. -/
theorem count_lowLine_ofMarkup (unlinked : ¬[']', '('] <:+: text)
    (named : RunsFollowWords text ∨ RunsPrecedeWords text) :
    (ofMarkup text).count '_' = text.count '_' := by
  have blanksGone : ∀ c, Text.isBlank c = true → Text.isWord c = false :=
    fun _ => Text.isWord_of_isBlank
  have joined : IsJoined text :=
    named.symm.imp runsPrecedeWords_iff.mp runsFollowWords_iff.mp
  have markGone : Text.isWord headingMark = false := by decide
  have joinedUnmarked := isJoined_of_thinned (thinned_unmarked blanksGone markGone text) joined
  have between : Thinned (Text.isWord · = false) (unmarked text)
      (unwrap (replace link (unmarked text))) := by
    rw [replace_link_unmarked unlinked]
    exact thinned_unwrap_of_isJoined joinedUnmarked
  have thinned := thinned_ofMarkup blanksGone markGone between
  have apart : ∀ c, Text.isWord c = false → (c == '_') = false := by
    intro c notWord
    rw [beq_eq_false_iff_ne]
    rintro rfl
    cases isWord_lowLine.symm.trans notWord
  rw [List.count_eq_length_filter, List.count_eq_length_filter, thinned.filter_eq apart]

/-- Stars go that stand next to low lines, which then stand at the ends of a text or next to a
blank, where they would pair with each other if they were no part of a name. -/
theorem count_lowLine_ofMarkup_starred :
    let leading := "# **_a** *__b_c*".toList
    let trailing := "a_ **b__** `c_`".toList
    ¬[']', '('] <:+: leading ∧ RunsPrecedeWords leading ∧
      ofMarkup leading = "_a __b_c".toList ∧
      (ofMarkup leading).count '_' = leading.count '_' ∧
      ¬[']', '('] <:+: trailing ∧ RunsFollowWords trailing ∧
      ofMarkup trailing = "a_ b__ c_".toList ∧
      (ofMarkup trailing).count '_' = trailing.count '_' := by
  intro leading trailing
  have unlinkedLeading : ¬[']', '('] <:+: leading := by decide +kernel
  have unlinkedTrailing : ¬[']', '('] <:+: trailing := by decide +kernel
  have precede : RunsPrecedeWords leading := by decide +kernel
  have follow : RunsFollowWords trailing := by decide +kernel
  exact ⟨unlinkedLeading, precede, by decide +kernel,
    count_lowLine_ofMarkup unlinkedLeading (Or.inr precede),
    unlinkedTrailing, follow, by decide +kernel,
    count_lowLine_ofMarkup unlinkedTrailing (Or.inl follow)⟩

end MarkdownReview.PlainText
