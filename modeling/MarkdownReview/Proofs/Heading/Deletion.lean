import MarkdownReview.Proofs.Heading.Replacement
/-!
What reading heading text as a reader sees it takes away. A rule puts nothing in place of what it
matches but characters of the match, so the plain text is what is left when characters are taken
out. Links take out what they point at; everything else takes out marks and blanks only, whatever
the marks pair with.
-/

namespace MarkdownReview.PlainText

open Text (Thinned)

variable {gone : Char → Prop} {rule : Rule} {text ahead : Text} {before : Option Char}

section Rule

/-- A rule that leaves of each match what is left when characters that are `gone` are taken out. -/
def Deletes (gone : Char → Prop) (rule : Rule) : Prop :=
  ∀ before ahead found, rule before ahead = some found →
    0 < found.width ∧ Thinned gone (ahead.take found.width) found.text

theorem thinned_replaceFrom (deletes : Deletes gone rule) (skip : Nat) (before : Option Char)
    (text : Text) : Thinned gone (text.drop skip) (replaceFrom rule skip before text) := by
  induction text generalizing skip before with
  | nil =>
    rw [List.drop_nil, replaceFrom]
    exact .nil
  | cons c rest ih =>
    cases skip with
    | succ skip => exact ih skip (some c)
    | zero =>
      rw [List.drop_zero, replaceFrom]
      split
      next found isFound =>
        obtain ⟨positive, matched⟩ := deletes before (c :: rest) found isFound
        obtain ⟨more, width⟩ := Nat.exists_eq_succ_of_ne_zero (Nat.ne_of_gt positive)
        have later := ih more (some c)
        rw [width] at matched ⊢
        have whole := matched.append later
        rwa [List.take_succ_cons, List.cons_append, List.take_append_drop] at whole
      next => exact .keep c (ih 0 (some c))

theorem thinned_replace (deletes : Deletes gone rule) (text : Text) :
    Thinned gone text (replace rule text) :=
  thinned_replaceFrom deletes 0 none text

theorem replace_eq_self
    (silent : ∀ passed ahead, text = passed ++ ahead → rule passed.getLast? ahead = none) :
    replace rule text = text := by
  -- By induction on what is ahead; the rule is only asked with what was passed before it.
  have fromOffset : ∀ passed ahead, text = passed ++ ahead →
      replaceFrom rule 0 passed.getLast? ahead = ahead := by
    intro passed ahead
    induction ahead generalizing passed with
    | nil => exact fun _ => rfl
    | cons c rest ih =>
      intro whole
      have later := ih (passed ++ [c]) (by simp [whole])
      rw [List.getLast?_concat] at later
      rw [replaceFrom, silent passed (c :: rest) whole]
      exact congrArg (c :: ·) later
  exact fromOffset [] text rfl

end Rule

section Link

theorem exists_linked_of_bracketed? {found : Replacement}
    (isFound : bracketed? ahead = some found) :
    ∃ label address rest, ahead = linked label address ++ rest ∧
      found = ⟨label, (linked label address).length⟩ := by
  unfold bracketed? at isFound
  split at isFound
  next inner =>
    split at isFound
    next target closed =>
      rw [Option.ite_none_right_eq_some, Option.some_inj] at isFound
      obtain ⟨shorter, rfl⟩ := isFound
      obtain ⟨address, rest, rfl, first⟩ :=
        List.eq_append_cons_of_mem (Text.length_takeWhile_lt_iff.mp shorter)
      have label := List.takeWhile_append_dropWhile (p := (· != ']')) (l := inner)
      rw [closed] at label
      rw [(Text.takeWhile_dropWhile_of_not_mem first rest).1]
      refine ⟨inner.takeWhile (· != ']'), address, rest, ?_, ?_⟩
      · nth_rewrite 1 [← label]
        simp [linked]
      · simp only [linked, List.length_append, List.length_cons, List.length_nil,
          Replacement.mk.injEq, true_and]
        omega
    next => cases isFound
  next => cases isFound

theorem exists_linked_of_link {found : Replacement} (isFound : link before ahead = some found) :
    ∃ mark label address rest, ahead = mark ++ (linked label address ++ rest) ∧
      found = ⟨label, (mark ++ linked label address).length⟩ := by
  unfold link at isFound
  split at isFound
  next inner =>
    obtain ⟨within, isWithin, rfl⟩ := Option.map_eq_some_iff.mp isFound
    obtain ⟨label, address, rest, rfl, rfl⟩ := exists_linked_of_bracketed? isWithin
    exact ⟨['!'], label, address, rest, rfl, rfl⟩
  next =>
    obtain ⟨label, address, rest, rfl, rfl⟩ := exists_linked_of_bracketed? isFound
    exact ⟨[], label, address, rest, rfl, rfl⟩

theorem thinned_linked (label address : Text) :
    Thinned (fun _ => True) (linked label address) label := by
  have opening : Thinned (fun _ => True) ['['] [] := .of_all_gone fun _ _ => trivial
  have closing : Thinned (fun _ => True) ([']', '('] ++ (address ++ [')'])) [] :=
    .of_all_gone fun _ _ => trivial
  have whole := (opening.append (Thinned.refl _ label)).append closing
  simpa only [linked, List.append_assoc, List.nil_append, List.append_nil] using whole

theorem deletes_link : Deletes (fun _ => True) link := by
  intro before ahead found isFound
  obtain ⟨mark, label, address, rest, rfl, rfl⟩ := exists_linked_of_link isFound
  have marks : Thinned (fun _ => True) mark [] := .of_all_gone fun _ _ => trivial
  have nonempty : mark ++ linked label address ≠ [] := by simp [linked]
  refine ⟨List.length_pos_iff.mpr nonempty, ?_⟩
  rw [← List.append_assoc, List.take_left]
  exact marks.append (thinned_linked label address)

theorem replace_link_eq_self (unlinked : ¬[']', '('] <:+: text) : replace link text = text := by
  refine replace_eq_self ?_
  rintro passed ahead rfl
  refine Option.eq_none_iff_forall_ne_some.mpr ?_
  intro found isFound
  obtain ⟨mark, label, address, rest, rfl, -⟩ := exists_linked_of_link isFound
  refine unlinked ⟨passed ++ (mark ++ ('[' :: label)), address ++ (')' :: rest), ?_⟩
  simp [linked]

end Link

namespace Wrapper

variable {wrapper : Wrapper} {inside content : Text}

/-- Ahead stand a mark, content and the mark again, with nothing outside that keeps it from being
unwrapped. -/
structure Unwraps (wrapper : Wrapper) (before : Option Char) (ahead content rest : Text) :
    Prop where
  opens : wrapper.outside before = true
  nonempty : content ≠ []
  split : ahead = wrapper.mark ++ (content ++ (wrapper.mark ++ rest))
  closes : wrapper.outside rest.head? = true

theorem exists_rest_of_closes (closed : wrapper.closes ahead = true) :
    ∃ rest, ahead = wrapper.mark ++ rest ∧ wrapper.outside rest.head? = true := by
  unfold closes at closed
  split at closed
  next => cases closed
  next rest starts =>
    exact ⟨rest, (List.isPrefixOf?_eq_some_iff_append_eq.mp starts).symm, closed⟩

theorem exists_rest_of_content? (isContent : wrapper.content? inside = some content) :
    content ≠ [] ∧ ∃ rest, inside = content ++ (wrapper.mark ++ rest) ∧
      wrapper.outside rest.head? = true := by
  induction inside generalizing content with
  | nil => cases isContent
  | cons c later ih =>
    rw [content?, Option.ite_none_left_eq_some] at isContent
    obtain ⟨-, isContent⟩ := isContent
    split at isContent
    next closed =>
      obtain rfl := Option.some.inj isContent
      obtain ⟨rest, rfl, outside⟩ := exists_rest_of_closes closed
      exact ⟨List.cons_ne_nil c [], rest, rfl, outside⟩
    next =>
      obtain ⟨within, isWithin, rfl⟩ := Option.map_eq_some_iff.mp isContent
      obtain ⟨-, rest, rfl, outside⟩ := ih isWithin
      exact ⟨List.cons_ne_nil c within, rest, rfl, outside⟩

theorem exists_unwraps_of_rule {found : Replacement}
    (isFound : wrapper.rule before ahead = some found) :
    ∃ content rest, wrapper.Unwraps before ahead content rest ∧
      found = ⟨content, content.length + 2 * wrapper.mark.length⟩ := by
  rw [rule, Option.ite_none_right_eq_some] at isFound
  obtain ⟨opens, isFound⟩ := isFound
  split at isFound
  next => cases isFound
  next inside starts =>
    obtain rfl := List.isPrefixOf?_eq_some_iff_append_eq.mp starts
    obtain ⟨content, isContent, rfl⟩ := Option.map_eq_some_iff.mp isFound
    obtain ⟨nonempty, rest, rfl, closes⟩ := exists_rest_of_content? isContent
    exact ⟨content, rest, ⟨opens, nonempty, rfl, closes⟩, rfl⟩

theorem deletes_rule (marksGone : ∀ c ∈ wrapper.mark, gone c) : Deletes gone wrapper.rule := by
  intro before ahead found isFound
  obtain ⟨content, rest, unwraps, rfl⟩ := exists_unwraps_of_rule isFound
  have positive := List.length_pos_iff.mpr unwraps.nonempty
  have matched : ahead.take (content.length + 2 * wrapper.mark.length) =
      wrapper.mark ++ (content ++ wrapper.mark) := by
    have width : content.length + 2 * wrapper.mark.length =
        (wrapper.mark ++ (content ++ wrapper.mark)).length := by
      simp only [List.length_append]
      omega
    have split : ahead = wrapper.mark ++ (content ++ wrapper.mark) ++ rest := by
      simp only [unwraps.split, List.append_assoc]
    rw [width, split, List.take_left]
  have marks : Thinned gone wrapper.mark [] := .of_all_gone marksGone
  refine ⟨Nat.add_pos_left positive _, ?_⟩
  rw [matched]
  have unwrapped := marks.append ((Thinned.refl gone content).append marks)
  rwa [List.append_nil, List.nil_append] at unwrapped

end Wrapper

section Markup

theorem thinned_foldl (kept : Text → Prop) {kinds : List Wrapper}
    (step : ∀ wrapper ∈ kinds, ∀ text, kept text → Thinned gone text (replace wrapper.rule text))
    (stays : ∀ text left, Thinned gone text left → kept text → kept left) (holds : kept text) :
    Thinned gone text (kinds.foldl (fun text wrapper => replace wrapper.rule text) text) := by
  induction kinds generalizing text with
  | nil => exact Thinned.refl gone text
  | cons wrapper kinds ih =>
    have first := step wrapper (List.mem_cons_self ..) text holds
    have later := ih (fun other member => step other (List.mem_cons_of_mem _ member))
      (stays _ _ first holds)
    exact first.trans later

theorem thinned_unmarked (blanksGone : ∀ c, Text.isBlank c = true → gone c)
    (markGone : gone headingMark) (text : Text) : Thinned gone text (unmarked text) := by
  have marks : ∀ c, (c == headingMark) = true → gone c := by
    intro c isMark
    rwa [beq_iff_eq.mp isMark]
  exact ((Thinned.trim blanksGone text).trans (Thinned.dropWhile marks _)).trans
    (Thinned.trimStart blanksGone _)

theorem unmarked_isInfix (text : Text) : unmarked text <:+: text := by
  have atEnd : Text.trimEnd (Text.trimStart text) <+: Text.trimStart text := by
    rw [← List.reverse_suffix, Text.trimEnd, List.reverse_reverse]
    exact List.dropWhile_suffix _
  have trimmed : Text.trim text <:+: text :=
    atEnd.isInfix.trans (List.dropWhile_suffix _).isInfix
  have unmarkedEnd : unmarked text <:+ Text.trim text :=
    (List.dropWhile_suffix _).trans (List.dropWhile_suffix _)
  exact unmarkedEnd.isInfix.trans trimmed

/-- Blanks and heading marks go first and blanks again at the end; in between go links and pairs of
marks. -/
theorem thinned_ofMarkup (blanksGone : ∀ c, Text.isBlank c = true → gone c)
    (markGone : gone headingMark)
    (between : Thinned gone (unmarked text) (unwrap (replace link (unmarked text)))) :
    Thinned gone text (ofMarkup text) :=
  ((thinned_unmarked blanksGone markGone text).trans between).trans (Thinned.trim blanksGone _)

theorem replace_link_unmarked (unlinked : ¬[']', '('] <:+: text) :
    replace link (unmarked text) = unmarked text :=
  replace_link_eq_self fun occurs => unlinked (occurs.trans (unmarked_isInfix text))

def marks : List Char := [headingMark, '*', '_', Document.tick]

def isMarkup (c : Char) : Bool := Text.isBlank c || marks.contains c

/-- What is left of a text without blanks and marks. -/
def bare (text : Text) : Text := text.filter fun c => !isMarkup c

theorem thinned_unwrap (marksGone : ∀ c ∈ marks, gone c) (text : Text) :
    Thinned gone text (unwrap text) := by
  have wrapperMarks : ∀ wrapper ∈ wrappers, wrapper.mark ⊆ marks := by decide
  refine thinned_foldl (fun _ => True) ?_ (fun _ _ _ _ => trivial) trivial
  intro wrapper member text _
  exact thinned_replace
    (Wrapper.deletes_rule fun c inMark => marksGone c (wrapperMarks wrapper member inMark)) text

/-- Plain text has characters of the text in their order and no others. Where there are no links, of
the characters that are neither blanks nor marks none is lost. -/
theorem ofMarkup_sublist_and_bare (text : Text) :
    (ofMarkup text).Sublist text ∧
      (¬[']', '('] <:+: text → bare (ofMarkup text) = bare text) := by
  refine ⟨?_, ?_⟩
  · have links := thinned_replace deletes_link (unmarked text)
    have unwrapped : Thinned (fun _ => True) _ (unwrap (replace link (unmarked text))) :=
      thinned_unwrap (fun _ _ => trivial) _
    exact (thinned_ofMarkup (fun _ _ => trivial) trivial (links.trans unwrapped)).sublist
  · intro unlinked
    have blanksGone : ∀ c, Text.isBlank c = true → isMarkup c = true :=
      fun c blank => by rw [isMarkup, blank, Bool.true_or]
    have marksGone : ∀ c ∈ marks, isMarkup c = true :=
      fun c member => by rw [isMarkup, List.contains_iff_mem.mpr member, Bool.or_true]
    have between : Thinned (isMarkup · = true) (unmarked text)
        (unwrap (replace link (unmarked text))) := by
      rw [replace_link_unmarked unlinked]
      exact thinned_unwrap marksGone (unmarked text)
    have thinned := thinned_ofMarkup blanksGone (marksGone headingMark (by decide)) between
    exact thinned.filter_eq fun c isGone => by rw [isGone, Bool.not_true]

/-- Marks that overlap and that pair over others, and brackets that are no link. -/
theorem ofMarkup_sublist_and_bare_unbalanced :
    let text := "## **a *b** __c* d_ `[e] (f)".toList
    ¬[']', '('] <:+: text ∧ ofMarkup text = "a b _c d `[e] (f)".toList ∧
      (ofMarkup text).Sublist text ∧ bare (ofMarkup text) = bare text := by
  intro text
  obtain ⟨taken, kept⟩ := ofMarkup_sublist_and_bare text
  have unlinked : ¬[']', '('] <:+: text := by decide +kernel
  exact ⟨unlinked, by decide +kernel, taken, kept unlinked⟩

end Markup
end MarkdownReview.PlainText
