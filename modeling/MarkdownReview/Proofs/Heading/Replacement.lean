import MarkdownReview.Heading.PlainText
import MarkdownReview.Proofs.Text.Blank
import MarkdownReview.Proofs.Text.Occurrence
/-!
What a rule makes of text that is written in segments with single spaces between them. Where a rule
does not reach over a space, what it makes of one segment decides what it makes of the whole.
-/

namespace MarkdownReview.PlainText

def spaced (segments : List Text) : Text := [' '].intercalate segments

/-- No character stands next to a segment, or a space does. -/
def AtGap (neighbour : Option Char) : Prop := neighbour = none ∨ neighbour = some ' '

/-- A rule that replaces nothing from a space on. -/
def PassesSpace (rule : Rule) : Prop := ∀ before rest, rule before (' ' :: rest) = none

/-- What a rule makes of a segment is the result, whatever segments come before and after it. -/
def Carries (rule : Rule) (segment result : Text) : Prop :=
  ∀ before rest, AtGap before → AtGap rest.head? →
    replaceFrom rule 0 before (segment ++ rest) = result ++ replace rule rest

variable {rule : Rule} {segment result rest : Text} {Part : Type} {parts : List Part}

theorem spaced_cons_cons (first second : Text) (segments : List Text) :
    spaced (first :: second :: segments) = first ++ ' ' :: spaced (second :: segments) := by
  rw [spaced, List.intercalate_cons_cons, List.append_assoc]
  rfl

theorem eq_nil_or_eq_cons_of_atGap (gap : AtGap rest.head?) :
    rest = [] ∨ ∃ tail, rest = ' ' :: tail := by
  rcases gap with none | space
  · exact Or.inl (List.head?_eq_none_iff.mp none)
  · exact Or.inr (List.head?_eq_some_iff.mp space)

theorem replaceFrom_space (passes : PassesSpace rule) (before : Option Char) (rest : Text) :
    replaceFrom rule 0 before (' ' :: rest) = ' ' :: replaceFrom rule 0 (some ' ') rest := by
  rw [replaceFrom, passes before rest]

theorem replaceFrom_of_atGap (passes : PassesSpace rule) (before : Option Char)
    (gap : AtGap rest.head?) : replaceFrom rule 0 before rest = replace rule rest := by
  rcases eq_nil_or_eq_cons_of_atGap gap with rfl | ⟨tail, rfl⟩
  · rfl
  · rw [replace, replaceFrom_space passes, replaceFrom_space passes]

theorem replaceFrom_skip (passes : PassesSpace rule) (before : Option Char) (passed : Text)
    (gap : AtGap rest.head?) :
    replaceFrom rule passed.length before (passed ++ rest) = replace rule rest := by
  induction passed generalizing before with
  | nil => exact replaceFrom_of_atGap passes before gap
  | cons c passed ih => exact ih (some c)

theorem carries_of_fires (passes : PassesSpace rule) (nonempty : segment ≠ [])
    (fires : ∀ before rest, AtGap before → AtGap rest.head? →
      rule before (segment ++ rest) = some ⟨result, segment.length⟩) :
    Carries rule segment result := by
  intro before rest gapBefore gap
  obtain ⟨c, inner, rfl⟩ := List.exists_cons_of_ne_nil nonempty
  have found := fires before rest gapBefore gap
  rw [List.cons_append] at found
  rw [List.cons_append, replaceFrom, found]
  change result ++ replaceFrom rule inner.length (some c) (inner ++ rest) = _
  rw [replaceFrom_skip passes (some c) inner gap]

theorem carries_of_silent (passes : PassesSpace rule)
    (silent : ∀ c ahead, c :: ahead <:+ segment → ∀ before rest, AtGap rest.head? →
      rule before (c :: (ahead ++ rest)) = none) : Carries rule segment segment := by
  intro before rest gapBefore gap
  -- Within the segment any character may come before, so the gap before it is given up.
  clear gapBefore
  induction segment generalizing before with
  | nil => exact replaceFrom_of_atGap passes before gap
  | cons c inner ih =>
    have here := silent c inner List.suffix_rfl before rest gap
    have silentLater : ∀ next ahead, next :: ahead <:+ inner → ∀ before rest, AtGap rest.head? →
        rule before (next :: (ahead ++ rest)) = none :=
      fun next ahead suffix => silent next ahead (suffix.trans (List.suffix_cons ..))
    have later := ih silentLater (some c)
    rw [List.cons_append, replaceFrom, here, List.cons_append]
    exact congrArg (c :: ·) later

/-- A rule goes through the segments of a text one by one. -/
theorem replace_spaced {written read : Part → Text} (passes : PassesSpace rule)
    (carries : ∀ part ∈ parts, Carries rule (written part) (read part)) :
    replace rule (spaced (parts.map written)) = spaced (parts.map read) := by
  -- By induction on the parts: before each part but the first stands a space.
  have fromGap : ∀ before, AtGap before →
      replaceFrom rule 0 before (spaced (parts.map written)) = spaced (parts.map read) := by
    induction parts with
    | nil => exact fun before _ => rfl
    | cons part parts ih =>
      intro before gapBefore
      have first := carries part (List.mem_cons_self ..) before
      cases parts with
      | nil =>
        have alone := first [] gapBefore (Or.inl rfl)
        rw [List.append_nil] at alone
        simp only [List.map_singleton, spaced, List.intercalate_singleton]
        exact alone.trans (List.append_nil _)
      | cons next parts =>
        have later := ih (fun other member => carries other (List.mem_cons_of_mem _ member))
          (some ' ') (Or.inr rfl)
        simp only [List.map_cons, spaced_cons_cons] at later ⊢
        rw [first _ gapBefore (Or.inr rfl), replace, replaceFrom_space passes, later]
  exact fromGap none (Or.inl rfl)

section Link

def linked (label address : Text) : Text := ['['] ++ label ++ [']', '('] ++ address ++ [')']

variable {label address : Text}

theorem bracketed?_linked (closedLabel : ']' ∉ label) (closedAddress : ')' ∉ address)
    (rest : Text) :
    bracketed? (linked label address ++ rest) = some ⟨label, (linked label address).length⟩ := by
  have split : linked label address ++ rest =
      '[' :: (label ++ ']' :: ('(' :: (address ++ ')' :: rest))) := by
    simp [linked]
  have width : (linked label address).length = label.length + address.length + 4 := by
    simp only [linked, List.length_append, List.length_cons, List.length_nil]
    omega
  have ofLabel := Text.takeWhile_dropWhile_of_not_mem closedLabel ('(' :: (address ++ ')' :: rest))
  have ofAddress := Text.takeWhile_dropWhile_of_not_mem closedAddress rest
  have closed : address.length < (address ++ ')' :: rest).length := by
    rw [List.length_append, List.length_cons]
    omega
  rw [split, width, bracketed?]
  simp only [ofLabel.1, ofLabel.2, ofAddress.1, if_pos closed]

theorem bracketed?_eq_none {text : Text} (other : text.head? ≠ some '[') :
    bracketed? text = none := by
  unfold bracketed?
  split
  · exact absurd rfl other
  · rfl

theorem passesSpace_link : PassesSpace link := fun _ _ => rfl

theorem carries_linked (closedLabel : ']' ∉ label) (closedAddress : ')' ∉ address) :
    Carries link (linked label address) label := by
  refine carries_of_fires passesSpace_link (by simp [linked]) ?_
  intro before rest _ _
  exact bracketed?_linked closedLabel closedAddress rest

theorem carries_image (closedLabel : ']' ∉ label) (closedAddress : ')' ∉ address) :
    Carries link ('!' :: linked label address) label := by
  refine carries_of_fires passesSpace_link (by simp) ?_
  intro before rest _ _
  change (bracketed? (linked label address ++ rest)).map _ = _
  rw [bracketed?_linked closedLabel closedAddress]
  rfl

theorem carries_unlinked (unlinked : '[' ∉ segment) : Carries link segment segment := by
  refine carries_of_silent passesSpace_link ?_
  intro c ahead suffix before rest gap
  have missing : '[' ∉ c :: ahead := fun member => unlinked (suffix.subset member)
  have different : c ≠ '[' := fun same => missing (same ▸ List.mem_cons_self ..)
  unfold link
  split
  next rest' same =>
    obtain ⟨-, rfl⟩ := List.cons.inj same
    rw [bracketed?_eq_none]
    · rfl
    · intro bracket
      cases ahead with
      | nil => rcases gap with none | space <;> simp_all
      | cons next ahead => simp_all
  next => exact bracketed?_eq_none (by simpa using different)

end Link

section Wrapper

variable {wrapper : Wrapper} {content ahead : Text}

theorem isWord_space : Text.isWord ' ' = false := Text.isWord_of_isBlank (by decide)

namespace Wrapper

theorem outside_of_atGap {neighbour : Option Char} (gap : AtGap neighbour) :
    wrapper.outside neighbour = true := by
  rcases gap with rfl | rfl
  · simp [outside]
  · simp [outside, isWord_space]

theorem isPrefixOf?_eq_none (missing : ¬wrapper.mark <+: ahead) :
    wrapper.mark.isPrefixOf? ahead = none := by
  refine Option.eq_none_iff_forall_not_mem.mpr ?_
  intro after found
  exact missing ⟨after, List.isPrefixOf?_eq_some_iff_append_eq.mp found⟩

theorem isPrefixOf?_mark (wrapper : Wrapper) (rest : Text) :
    wrapper.mark.isPrefixOf? (wrapper.mark ++ rest) = some rest :=
  List.isPrefixOf?_eq_some_iff_append_eq.mpr rfl

theorem closes_eq_false (missing : ¬wrapper.mark <+: ahead) : wrapper.closes ahead = false := by
  rw [closes, isPrefixOf?_eq_none missing]

theorem closes_mark (gap : AtGap rest.head?) : wrapper.closes (wrapper.mark ++ rest) = true := by
  rw [closes, isPrefixOf?_mark]
  exact outside_of_atGap gap

theorem rule_eq_none (missing : ¬wrapper.mark <+: ahead) (before : Option Char) :
    wrapper.rule before ahead = none := by
  rw [rule, isPrefixOf?_eq_none missing]
  split <;> rfl

structure IsMarked (wrapper : Wrapper) : Prop where
  nonempty : wrapper.mark ≠ []
  unspaced : ' ' ∉ wrapper.mark

theorem not_prefix_append (marked : wrapper.IsMarked) (nonempty : content ≠ [])
    (apart : ∀ c ∈ wrapper.mark, c ∉ content) (rest : Text) :
    ¬wrapper.mark <+: content ++ rest := by
  obtain ⟨c, inner, rfl⟩ := List.exists_cons_of_ne_nil nonempty
  obtain ⟨first, more, same⟩ := List.exists_cons_of_ne_nil marked.nonempty
  rw [same] at apart ⊢
  intro starts
  obtain ⟨rfl, -⟩ := List.cons_prefix_cons.mp starts
  exact apart first (List.mem_cons_self ..) (List.mem_cons_self ..)

theorem content?_append_mark (marked : wrapper.IsMarked) (nonempty : content ≠ [])
    (inLine : '\n' ∉ content) (apart : ∀ c ∈ wrapper.mark, c ∉ content) (gap : AtGap rest.head?) :
    wrapper.content? (content ++ (wrapper.mark ++ rest)) = some content := by
  induction content with
  | nil => exact absurd rfl nonempty
  | cons c inner ih =>
    have notEnd : c ≠ '\n' := fun same => inLine (same ▸ List.mem_cons_self ..)
    rw [List.cons_append, content?, if_neg notEnd]
    by_cases last : inner = []
    · rw [last, List.nil_append, if_pos (closes_mark gap)]
    · have apartInner : ∀ c ∈ wrapper.mark, c ∉ inner :=
        fun c member inside => apart c member (List.mem_cons_of_mem _ inside)
      have inLineInner : '\n' ∉ inner := fun inside => inLine (List.mem_cons_of_mem _ inside)
      have notAhead := not_prefix_append marked last apartInner (wrapper.mark ++ rest)
      rw [closes_eq_false notAhead, if_neg Bool.false_ne_true, ih last inLineInner apartInner]
      rfl

theorem passesSpace_rule (marked : wrapper.IsMarked) : PassesSpace wrapper.rule := by
  intro before rest
  have apart : ∀ c ∈ wrapper.mark, c ∉ [' '] := by
    intro c member inside
    obtain rfl := List.mem_singleton.mp inside
    exact marked.unspaced member
  exact rule_eq_none (not_prefix_append marked (List.cons_ne_nil _ _) apart rest) before

theorem carries_wrapped (marked : wrapper.IsMarked) (nonempty : content ≠ [])
    (inLine : '\n' ∉ content) (apart : ∀ c ∈ wrapper.mark, c ∉ content) :
    Carries wrapper.rule (wrapper.mark ++ content ++ wrapper.mark) content := by
  refine carries_of_fires (passesSpace_rule marked) (by simp [nonempty]) ?_
  intro before rest gapBefore gap
  have width : (wrapper.mark ++ content ++ wrapper.mark).length =
      content.length + 2 * wrapper.mark.length := by
    simp only [List.length_append]
    omega
  rw [rule, if_pos (outside_of_atGap gapBefore), width, List.append_assoc, List.append_assoc,
    isPrefixOf?_mark]
  change (wrapper.content? (content ++ (wrapper.mark ++ rest))).map _ = _
  rw [content?_append_mark marked nonempty inLine apart gap]
  rfl

theorem carries_unwrapped (marked : wrapper.IsMarked) (missing : ¬wrapper.mark <:+: segment) :
    Carries wrapper.rule segment segment := by
  refine carries_of_silent (passesSpace_rule marked) ?_
  intro c ahead suffix before rest gap
  refine rule_eq_none ?_ before
  intro starts
  refine missing (List.IsInfix.trans (List.IsPrefix.isInfix ?_) suffix.isInfix)
  rcases eq_nil_or_eq_cons_of_atGap gap with rfl | ⟨tail, rfl⟩
  · rwa [List.append_nil] at starts
  · exact (Text.prefix_append_cons_iff marked.unspaced (c :: ahead) tail).mp starts

end Wrapper
end Wrapper
end MarkdownReview.PlainText
