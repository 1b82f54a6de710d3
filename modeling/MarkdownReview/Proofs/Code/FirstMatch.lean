import MarkdownReview.Proofs.Code.Enclosure
/-!
The match on a line is what a search of every offset finds: the form that stands first outside the
inline code. Going from one place of a form to the next leaves out what stands inside an earlier
place only, and a place that touches inline code lies within its delimiters, so nothing that stands
outside is left out.
-/

namespace MarkdownReview.Code

open Document (Span codeSpans)

namespace Form

variable {form : Form} {line : Text} {place : Span}

/-- A form stands at a place of a line and shares no character with the inline code. -/
structure StandsFree (form : Form) (line : Text) (place : Span) : Prop where
  stands : form.endAt? line place.start = some place.stop
  free : ∀ span ∈ codeSpans line, place.stop ≤ span.start ∨ span.stop ≤ place.start

theorem standsFree_iff : form.StandsFree line place ↔
    form.endAt? line place.start = some place.stop ∧
      ∀ span ∈ codeSpans line, place.meets span = false := by
  refine ⟨fun free => ⟨free.stands, ?_⟩, fun free => ⟨free.1, ?_⟩⟩
  · intro span member
    exact Document.meets_eq_false_iff.mpr (free.free span member).symm
  · intro span member
    exact (Document.meets_eq_false_iff.mp (free.2 span member)).symm

theorem placesFrom_pairwise (form : Form) (skip offset : Nat) (before : Option Char) (text : Text) :
    (form.placesFrom skip offset before text).Pairwise fun first second =>
      first.start < second.start := by
  induction text generalizing skip offset before with
  | nil => exact List.Pairwise.nil
  | cons c rest ih =>
    cases skip with
    | succ skip => exact ih _ _ _
    | zero =>
      rw [placesFrom]
      cases form.width? before (c :: rest) with
      | none => exact ih _ _ _
      | some width =>
        refine List.Pairwise.cons ?_ (ih _ _ _)
        intro later member
        obtain ⟨passed, -, -, starts, -, -⟩ := standing_of_mem_placesFrom member
        rw [starts]
        change offset < offset + 1 + passed.length
        omega

/-- A form that stands ahead has its place, unless it stands inside an earlier place. -/
theorem mem_placesFrom_or_covered {width : Nat} {passed ahead : Text} (skip offset : Nat)
    (before : Option Char) (nonempty : ahead ≠ []) (past : skip ≤ passed.length)
    (stands : form.width? (passed.getLast?.or before) ahead = some width) :
    (⟨offset + passed.length, offset + passed.length + width⟩ : Span) ∈
        form.placesFrom skip offset before (passed ++ ahead) ∨
      ∃ place ∈ form.placesFrom skip offset before (passed ++ ahead),
        place.start < offset + passed.length ∧ offset + passed.length < place.stop := by
  induction passed generalizing skip offset before with
  | nil =>
    obtain ⟨c, rest, rfl⟩ := List.exists_cons_of_ne_nil nonempty
    obtain rfl := Nat.le_zero.mp past
    change form.width? before (c :: rest) = some width at stands
    refine Or.inl ?_
    rw [List.nil_append, placesFrom, stands]
    exact List.mem_cons_self ..
  | cons c passed ih =>
    have counts : offset + (c :: passed).length = offset + 1 + passed.length := by
      rw [List.length_cons]
      omega
    have standsLater : form.width? (passed.getLast?.or (some c)) ahead = some width := by
      rw [← stands, List.getLast?_cons]
      cases passed.getLast? <;> rfl
    rw [counts, List.cons_append]
    cases skip with
    | succ skip => exact ih _ _ _ (Nat.le_of_succ_le_succ past) standsLater
    | zero =>
      rw [placesFrom]
      cases here : form.width? before (c :: (passed ++ ahead)) with
      | none => exact ih _ _ _ (Nat.zero_le _) standsLater
      | some first =>
        by_cases beyond : first - 1 ≤ passed.length
        · rcases ih (first - 1) (offset + 1) (some c) beyond standsLater with
            member | ⟨place, member, covers⟩
          · exact Or.inl (List.mem_cons_of_mem _ member)
          · exact Or.inr ⟨place, List.mem_cons_of_mem _ member, covers⟩
        · refine Or.inr ⟨⟨offset, offset + first⟩, List.mem_cons_self .., ?_, ?_⟩
          · change offset < offset + 1 + passed.length
            omega
          · change offset + 1 + passed.length < offset + first
            omega

theorem endAt?_of_mem_places (known : form ∈ forms) (member : place ∈ form.places line) :
    form.endAt? line place.start = some place.stop := by
  obtain ⟨passed, ahead, rfl, starts, standing, ordered⟩ := standing_of_mem_placesFrom member
  rw [Nat.zero_add] at starts
  rw [Option.or_none] at standing
  rw [endAt?_eq known, starts, List.take_left, List.drop_left, standing, Option.map_some, starts]
  congr 1
  omega

theorem exists_free_place (known : form ∈ forms) (free : form.StandsFree line place) :
    ∃ earlier ∈ form.places line, earlier.start ≤ place.start ∧
      ∀ span ∈ codeSpans line, earlier.meets span = false := by
  obtain ⟨stands, apart⟩ := standsFree_iff.mp free
  have bounds := endAt?_bounds known stands
  have taken := stands
  rw [endAt?_eq known] at taken
  obtain ⟨width, standing, stop⟩ := Option.map_eq_some_iff.mp taken
  have length : (line.take place.start).length = place.start := by
    rw [List.length_take]
    omega
  have nonempty : line.drop place.start ≠ [] := by
    rw [ne_eq, List.drop_eq_nil_iff]
    omega
  have either := mem_placesFrom_or_covered 0 0 none nonempty
    (Nat.zero_le (line.take place.start).length) (by rwa [Option.or_none])
  rw [List.take_append_drop, length, Nat.zero_add, stop] at either
  rcases either with member | ⟨earlier, member, starts, covers⟩
  · exact ⟨place, member, Nat.le_refl _, apart⟩
  · refine ⟨earlier, member, Nat.le_of_lt starts, ?_⟩
    intro span inside
    by_contra meets
    have reads := readsAt_of_mem_places known member
    rw [Bool.not_eq_false, reads.meets_eq_encloses known inside, Span.encloses_iff] at meets
    have outside := free.free span inside
    omega

theorem standsFree_of_firstOutside (known : form ∈ forms)
    (found : form.firstOutside (codeSpans line) line = some place) :
    form.StandsFree line place := by
  have apart := List.find?_some found
  rw [Bool.not_eq_true', List.any_eq_false] at apart
  refine standsFree_iff.mpr ⟨endAt?_of_mem_places known (List.mem_of_find?_eq_some found), ?_⟩
  exact fun span member => Bool.eq_false_iff.mpr (apart span member)

theorem exists_firstOutside (known : form ∈ forms) (free : form.StandsFree line place) :
    ∃ first, form.firstOutside (codeSpans line) line = some first ∧ first.start ≤ place.start := by
  obtain ⟨earlier, member, least, apart⟩ := exists_free_place known free
  have passes : (!(codeSpans line).any earlier.meets) = true := by
    rw [Bool.not_eq_true', List.any_eq_false]
    exact fun span inside => Bool.eq_false_iff.mp (apart span inside)
  cases found : form.firstOutside (codeSpans line) line with
  | none => exact absurd passes (List.find?_eq_none.mp found earlier member)
  | some first =>
    refine ⟨first, rfl, ?_⟩
    obtain ⟨-, before, after, places, passed⟩ := List.find?_eq_some_iff_append.mp found
    have ascending := form.placesFrom_pairwise 0 0 none line
    change (form.places line).Pairwise _ at ascending
    rw [places] at member ascending
    rcases List.mem_append.mp member with skipped | kept
    · have fails := passed earlier skipped
      rw [passes] at fails
      cases fails
    · rcases List.mem_cons.mp kept with rfl | later
      · exact least
      · have ascendingFrom := (List.pairwise_append.mp ascending).2.1
        have ordered := (List.pairwise_cons.mp ascendingFrom).1 earlier later
        omega

end Form

theorem foldl_earlier_isSome {found : List Match} {best : Option Match}
    (nonempty : found ≠ [] ∨ best.isSome) : (found.foldl earlier best).isSome = true := by
  induction found generalizing best with
  | nil => exact nonempty.resolve_left (fun none => none rfl)
  | cons first rest ih =>
    refine ih (Or.inr ?_)
    unfold earlier
    cases best with
    | none => rfl
    | some held =>
      simp only
      split <;> rfl

theorem foldl_earlier_le {found : List Match} {best : Option Match} {result : Match}
    (chosen : found.foldl earlier best = some result) :
    (∀ other ∈ found, result.place.start ≤ other.place.start) ∧
      ∀ held, best = some held → result.place.start ≤ held.place.start := by
  induction found generalizing best with
  | nil =>
    refine ⟨by simp, ?_⟩
    rintro held rfl
    cases chosen
    exact Nat.le_refl _
  | cons first rest ih =>
    obtain ⟨least, atMost⟩ := ih chosen
    cases best with
    | none =>
      have first := atMost first rfl
      simp_all
    | some held =>
      by_cases before : first.place.start < held.place.start
      · have upper := atMost first (if_pos before)
        refine ⟨List.forall_mem_cons.mpr ⟨upper, least⟩, ?_⟩
        intro other same
        cases same
        omega
      · have upper := atMost held (if_neg before)
        refine ⟨List.forall_mem_cons.mpr ⟨by omega, least⟩, ?_⟩
        intro other same
        cases same
        exact upper

def matchesOf (battery : List Form) (line : Text) : List Match :=
  battery.filterMap fun form =>
    (form.firstOutside (codeSpans line) line).map fun place => ⟨place, form.language⟩

/-- The match on a line where the forms of a battery are looked for one after the other. -/
def matchOf? (battery : List Form) (line : Text) : Option Match :=
  (matchesOf battery line).foldl earlier none

theorem firstMatch?_eq_matchOf? (line : Text) : firstMatch? line = matchOf? forms line := rfl

/-- A form of the battery stands free at the place of the match, and none stands free before it. -/
structure IsFirstFree (battery : List Form) (line : Text) (found : Match) : Prop where
  stands : ∃ form ∈ battery, form.StandsFree line found.place ∧ form.language = found.language
  first : ∀ form ∈ battery, ∀ place, form.StandsFree line place →
    found.place.start ≤ place.start

variable {battery : List Form} {line : Text} {found : Match}

theorem eq_of_endAt? {first second : Form} {start stop stopOther : Nat} (knownFirst : first ∈ forms)
    (knownSecond : second ∈ forms) (stands : first.endAt? line start = some stop)
    (standsOther : second.endAt? line start = some stopOther) : first = second := by
  have symmetric : Std.Symm fun one two : Form =>
      one.endAt? line start = none ∨ two.endAt? line start = none := ⟨fun _ _ => Or.symm⟩
  by_contra different
  rcases (Form.endAt?_apart line start).forall knownFirst knownSecond different with none | none
  · rw [stands] at none
    cases none
  · rw [standsOther] at none
    cases none

theorem IsFirstFree.unique {other : Match} (known : ∀ form ∈ battery, form ∈ forms)
    (isFirst : IsFirstFree battery line found) (isFirstOther : IsFirstFree battery line other) :
    found = other := by
  obtain ⟨form, member, free, language⟩ := isFirst.stands
  obtain ⟨formOther, memberOther, freeOther, languageOther⟩ := isFirstOther.stands
  have starts : found.place.start = other.place.start :=
    Nat.le_antisymm (isFirst.first formOther memberOther _ freeOther)
      (isFirstOther.first form member _ free)
  have stands := free.stands
  have standsOther := freeOther.stands
  rw [starts] at stands
  obtain rfl := eq_of_endAt? (known form member) (known formOther memberOther) stands standsOther
  have stops := Option.some.inj (stands.symm.trans standsOther)
  obtain ⟨⟨start, stop⟩, kind⟩ := found
  obtain ⟨⟨startOther, stopOther⟩, kindOther⟩ := other
  simp only at starts stops language languageOther
  rw [starts, stops, ← language, ← languageOther]

theorem mem_matchesOf {form : Form} {place : Span} (inside : form ∈ battery)
    (outside : form.firstOutside (codeSpans line) line = some place) :
    ⟨place, form.language⟩ ∈ matchesOf battery line := by
  refine List.mem_filterMap.mpr ⟨form, inside, ?_⟩
  rw [outside]
  rfl

theorem isFirstFree_of_matchOf? (known : ∀ form ∈ battery, form ∈ forms)
    (chosen : matchOf? battery line = some found) : IsFirstFree battery line found := by
  refine ⟨?_, ?_⟩
  · rcases mem_of_foldl_earlier chosen with member | none
    · obtain ⟨form, inside, placed⟩ := List.mem_filterMap.mp member
      obtain ⟨place, outside, rfl⟩ := Option.map_eq_some_iff.mp placed
      exact ⟨form, inside, Form.standsFree_of_firstOutside (known form inside) outside, rfl⟩
    · cases none
  · intro form inside place free
    obtain ⟨first, outside, least⟩ := Form.exists_firstOutside (known form inside) free
    exact Nat.le_trans ((foldl_earlier_le chosen).1 _ (mem_matchesOf inside outside)) least

theorem exists_matchOf? {form : Form} {place : Span} (known : ∀ form ∈ battery, form ∈ forms)
    (inside : form ∈ battery) (free : form.StandsFree line place) :
    ∃ found, matchOf? battery line = some found := by
  obtain ⟨first, outside, -⟩ := Form.exists_firstOutside (known form inside) free
  have nonempty := List.ne_nil_of_mem (mem_matchesOf inside outside)
  exact Option.isSome_iff_exists.mp (foldl_earlier_isSome (Or.inl nonempty))

theorem matchOf?_eq_some_iff (known : ∀ form ∈ battery, form ∈ forms) :
    matchOf? battery line = some found ↔ IsFirstFree battery line found := by
  refine ⟨isFirstFree_of_matchOf? known, ?_⟩
  intro isFirst
  obtain ⟨form, inside, free, -⟩ := isFirst.stands
  obtain ⟨chosen, matched⟩ := exists_matchOf? known inside free
  rw [matched, (isFirstFree_of_matchOf? known matched).unique known isFirst]

theorem matchOf?_eq_none_iff (known : ∀ form ∈ battery, form ∈ forms) :
    matchOf? battery line = none ↔ ∀ form ∈ battery, ∀ place, ¬form.StandsFree line place := by
  refine ⟨?_, ?_⟩
  · intro none form inside place free
    obtain ⟨chosen, matched⟩ := exists_matchOf? known inside free
    rw [none] at matched
    cases matched
  · intro nowhere
    cases matched : matchOf? battery line with
    | none => rfl
    | some chosen =>
      obtain ⟨form, inside, free, -⟩ := (isFirstFree_of_matchOf? known matched).stands
      exact absurd free (nowhere form inside _)

theorem IsFirstFree.congr {other : Text} (isFirst : IsFirstFree battery line found)
    (sameFree : ∀ form ∈ battery, ∀ place,
      form.StandsFree line place ↔ form.StandsFree other place) :
    IsFirstFree battery other found := by
  obtain ⟨form, inside, free, language⟩ := isFirst.stands
  refine ⟨⟨form, inside, (sameFree form inside _).mp free, language⟩, ?_⟩
  intro form inside place free
  exact isFirst.first form inside place ((sameFree form inside place).mpr free)

theorem IsFirstFree.perm {other : List Form} (permuted : battery.Perm other)
    (isFirst : IsFirstFree battery line found) : IsFirstFree other line found := by
  obtain ⟨form, inside, free, language⟩ := isFirst.stands
  refine ⟨⟨form, permuted.mem_iff.mp inside, free, language⟩, ?_⟩
  exact fun form inside => isFirst.first form (permuted.mem_iff.mpr inside)

theorem matchOf?_perm (permuted : battery.Perm forms) (line : Text) :
    matchOf? battery line = matchOf? forms line := by
  have known : ∀ form ∈ battery, form ∈ forms := fun form inside => permuted.mem_iff.mp inside
  apply Option.ext
  intro found
  rw [matchOf?_eq_some_iff known, matchOf?_eq_some_iff fun form inside => inside]
  exact ⟨IsFirstFree.perm permuted, IsFirstFree.perm permuted.symm⟩

/-- The match on a line is the form that stands first, of all offsets and forms, outside the inline
code; there is none only where no form stands free at any offset. No two forms stand at one offset,
and the order in which the forms are looked for does not count. -/
theorem firstMatch?_isFirst (line : Text) :
    (firstMatch? line = none ↔ ∀ form ∈ forms, ∀ place, ¬form.StandsFree line place) ∧
    (∀ found, firstMatch? line = some found ↔ IsFirstFree forms line found) ∧
    (∀ start, forms.Pairwise fun first second =>
      first.endAt? line start = none ∨ second.endAt? line start = none) ∧
    ∀ battery : List Form, battery.Perm forms → matchOf? battery line = firstMatch? line := by
  have known : ∀ form ∈ forms, form ∈ forms := fun form inside => inside
  rw [firstMatch?_eq_matchOf?]
  refine ⟨matchOf?_eq_none_iff known, ?_, Form.endAt?_apart line, ?_⟩
  · exact fun found => matchOf?_eq_some_iff known
  · exact fun battery permuted => matchOf?_perm permuted line

/-- The import in inline code does not count, and of the two that follow the earlier one stands
first, though the battery is gone through from its end. -/
theorem firstMatch?_isFirst_reversed :
    let line := "`import a` def f(x), import b".toList
    let found : Match := ⟨⟨11, 17⟩, .python⟩
    forms.reverse.Perm forms ∧ matchOf? forms.reverse line = some found ∧
      IsFirstFree forms line found := by
  intro line found
  obtain ⟨-, first, -, order⟩ := firstMatch?_isFirst line
  have here : firstMatch? line = some found := by decide +kernel
  have permuted : forms.reverse.Perm forms := List.reverse_perm forms
  exact ⟨permuted, (order forms.reverse permuted).trans here, (first found).mp here⟩

end MarkdownReview.Code
