import Mathlib.Data.List.DropRight
import MarkdownReview.Heading.Contents
/-!
What a walk answers after any calls. The answer to a text depends on the headings that carry its key
and on how often that key was claimed since the last restart, and on nothing else that was asked.
-/

namespace MarkdownReview.Walk

/-- What can be asked of a walk: the next anchor for a text, the anchor of the heading with an
index, and to start again from the top. -/
inductive Call
  | claim (text : Text)
  | look (index : Int)
  | restart
deriving DecidableEq, Repr

def answer (walk : Walk) : Call → Option Text × Walk
  | .claim text => walk.claim text
  | .look index => (Contents.anchorAt? walk.headings index, walk)
  | .restart => (none, walk.restart)

@[simp] theorem answer_claim (walk : Walk) (text : Text) :
    walk.answer (.claim text) = walk.claim text := rfl

def after (walk : Walk) (calls : List Call) : Walk :=
  calls.foldl (fun walk call => (walk.answer call).2) walk

def answers : Walk → List Call → List (Option Text)
  | _, [] => []
  | walk, call :: rest => (walk.answer call).1 :: answers (walk.answer call).2 rest

theorem after_concat (walk : Walk) (calls : List Call) (call : Call) :
    walk.after (calls ++ [call]) = ((walk.after calls).answer call).2 := by
  rw [after, List.foldl_append]
  rfl

theorem answers_getElem? (walk : Walk) (before : List Call) (call : Call) (later : List Call) :
    (walk.answers (before ++ call :: later))[before.length]? =
      some ((walk.after before).answer call).1 := by
  induction before generalizing walk with
  | nil => rfl
  | cons first before ih => exact ih (walk.answer first).2

theorem length_answers (walk : Walk) (calls : List Call) :
    (walk.answers calls).length = calls.length := by
  induction calls generalizing walk with
  | nil => rfl
  | cons call rest ih => rw [answers, List.length_cons, List.length_cons, ih]

theorem answers_map_claim_getElem? (walk : Walk) {texts : List Text} {i : Nat} {text : Text}
    (stands : texts[i]? = some text) :
    (walk.answers (texts.map .claim))[i]? =
      some ((walk.after ((texts.take i).map .claim)).claim text).1 := by
  obtain ⟨inside, same⟩ := List.getElem?_eq_some_iff.mp stands
  have split : texts.map Call.claim = (texts.take i).map .claim ++
      .claim text :: (texts.drop (i + 1)).map .claim := by
    rw [← List.map_cons, ← List.map_append, ← same, List.getElem_cons_drop, List.take_append_drop]
  have count : ((texts.take i).map Call.claim).length = i := by
    rw [List.length_map, List.length_take, Nat.min_eq_left (Nat.le_of_lt inside)]
  have given := walk.answers_getElem? ((texts.take i).map .claim) (.claim text)
    ((texts.drop (i + 1)).map .claim)
  rwa [count, ← split, answer_claim] at given

def Call.isClaimOf (headings : List Heading) (wanted : Text) : Call → Bool
  | .claim text => key headings text == wanted
  | _ => false

/-- How often a key has been claimed since the last restart. -/
def claims (headings : List Heading) (wanted : Text) (calls : List Call) : Nat :=
  (calls.rtakeWhile (· != .restart)).countP (·.isClaimOf headings wanted)

variable {headings : List Heading} {wanted : Text}

theorem claims_concat_restart (calls : List Call) :
    claims headings wanted (calls ++ [.restart]) = 0 := by
  rw [claims, List.rtakeWhile_concat_neg _ _ _ (by simp)]
  rfl

theorem claims_concat {call : Call} (calls : List Call) (goesOn : call ≠ .restart) :
    claims headings wanted (calls ++ [call]) =
      claims headings wanted calls + if call.isClaimOf headings wanted then 1 else 0 := by
  rw [claims, List.rtakeWhile_concat_pos _ _ _ (by simpa using goesOn), List.countP_append,
    List.countP_singleton]
  rfl

theorem claims_map_claim (texts : List Text) :
    claims headings wanted (texts.map .claim) =
      texts.countP fun text => key headings text == wanted := by
  have whole : (texts.map Call.claim).rtakeWhile (· != .restart) = texts.map Call.claim := by
    rw [List.rtakeWhile_eq_self_iff]
    intro call member
    obtain ⟨text, -, rfl⟩ := List.mem_map.mp member
    rfl
  rw [claims, whole, List.countP_map]
  rfl

theorem claim_eq (walk : Walk) (text : Text) :
    walk.claim text =
      let wanted := key walk.headings text
      let anchors := anchorsFor walk.headings wanted
      let count := (walk.claimed.get? wanted).getD 0
      (anchors[min count (anchors.length - 1)]?,
        if anchors = [] then walk
        else { walk with claimed := walk.claimed.insert wanted (count + 1) }) := by
  unfold claim
  cases anchors : anchorsFor walk.headings (key walk.headings text) with
  | nil => simp [anchors]
  | cons first rest => simp [anchors]

theorem anchorsFor_eq_nil_iff :
    anchorsFor headings wanted = [] ↔ ∀ heading ∈ headings, heading.text ≠ wanted := by
  rw [anchorsFor, List.map_eq_nil_iff, List.filter_eq_nil_iff]
  simp

/-- The walk counts the claims of every key that a heading carries. -/
structure Counts (headings : List Heading) (calls : List Call) (walk : Walk) : Prop where
  headings_eq : walk.headings = headings
  claimed : ∀ wanted, anchorsFor headings wanted ≠ [] →
    (walk.claimed.get? wanted).getD 0 = claims headings wanted calls

theorem counts_answer {walk : Walk} {calls : List Call} (counts : Counts headings calls walk)
    (call : Call) : Counts headings (calls ++ [call]) (walk.answer call).2 := by
  obtain ⟨rfl, claimed⟩ := counts
  cases call with
  | restart =>
    refine ⟨rfl, ?_⟩
    intro wanted carried
    rw [claims_concat_restart]
    rfl
  | look index =>
    refine ⟨rfl, ?_⟩
    intro wanted carried
    rw [claims_concat calls (by simp)]
    exact claimed wanted carried
  | claim text =>
    rw [answer_claim, claim_eq]
    by_cases unknown : anchorsFor walk.headings (key walk.headings text) = []
    -- A text that no heading has is not counted, and its key is none of those counted here.
    · simp only [unknown, if_true]
      refine ⟨rfl, ?_⟩
      intro wanted carried
      have other : key walk.headings text ≠ wanted := by
        intro same
        exact carried (same ▸ unknown)
      rw [claims_concat calls (by simp), claimed wanted carried]
      simp [Call.isClaimOf, other]
    · simp only [unknown, if_false]
      refine ⟨rfl, ?_⟩
      intro wanted carried
      rw [claims_concat calls (by simp)]
      by_cases same : wanted = key walk.headings text
      · rw [← same, Table.get?_insert_self, claimed wanted carried]
        simp [Call.isClaimOf, same]
      · rw [Table.get?_insert_of_ne _ _ same, claimed wanted carried]
        simp [Call.isClaimOf, Ne.symm same]

theorem counts_after (headings : List Heading) (calls : List Call) :
    Counts headings calls (after { headings } calls) := by
  induction calls using List.reverseRecOn with
  | nil => exact ⟨rfl, fun wanted carried => rfl⟩
  | append_singleton calls call ih =>
    rw [after_concat]
    exact counts_answer ih call

theorem claim_after (headings : List Heading) (before : List Call) (text : Text) :
    ((after { headings } before).claim text).1 =
      (anchorsFor headings (key headings text))[min
        (claims headings (key headings text) before)
        ((anchorsFor headings (key headings text)).length - 1)]? := by
  obtain ⟨same, claimed⟩ := counts_after headings before
  rw [claim_eq, same]
  by_cases unknown : anchorsFor headings (key headings text) = []
  · simp only [unknown, List.getElem?_nil]
  · simp only [claimed _ unknown]

def Call.concerns (headings : List Heading) (wanted : Text) (call : Call) : Bool :=
  call == .restart || call.isClaimOf headings wanted

theorem claims_filter_concerns (calls : List Call) :
    claims headings wanted (calls.filter (·.concerns headings wanted)) =
      claims headings wanted calls := by
  induction calls using List.reverseRecOn with
  | nil => rfl
  | append_singleton calls call ih =>
    by_cases again : call = .restart
    · have kept : [call].filter (·.concerns headings wanted) = [call] := by
        rw [List.filter_singleton, again]
        rfl
      rw [List.filter_append, kept, again, claims_concat_restart, claims_concat_restart]
    · rw [List.filter_append, List.filter_singleton, claims_concat calls again]
      have concerns : call.concerns headings wanted = call.isClaimOf headings wanted := by
        rw [Call.concerns, beq_eq_false_iff_ne.mpr again, Bool.false_or]
      cases claim : call.isClaimOf headings wanted with
      | true => simp [concerns, claim, claims_concat _ again, ih]
      | false => simp [concerns, claim, ih]

def isKnown (headings : List Heading) (text : Text) : Bool :=
  headings.any (·.text == key headings text)

theorem anchorsFor_key_eq_nil_iff {text : Text} :
    anchorsFor headings (key headings text) = [] ↔ isKnown headings text = false := by
  rw [anchorsFor_eq_nil_iff, isKnown, List.any_eq_false]
  simp

theorem key_text {heading : Heading} (member : heading ∈ headings) :
    key headings heading.text = heading.text := by
  have carried : headings.any (·.text == heading.text) = true :=
    List.any_eq_true.mpr ⟨heading, member, beq_self_eq_true _⟩
  rw [key, if_pos carried]

theorem claims_of_known {before : List Text} {passed : List Heading}
    (inside : ∀ other ∈ passed, other ∈ headings)
    (known : before.filter (isKnown headings) = passed.map (·.text))
    {heading : Heading} (member : heading ∈ headings) :
    claims headings heading.text (before.map .claim) =
      (anchorsFor passed heading.text).length := by
  have onlyKnown : before.countP (fun text => key headings text == heading.text) =
      (before.filter (isKnown headings)).countP fun text => key headings text == heading.text := by
    rw [List.countP_filter]
    apply List.countP_congr
    intro text asked
    rw [Bool.and_eq_true, beq_iff_eq]
    refine ⟨fun same => ⟨same, ?_⟩, And.left⟩
    exact List.any_eq_true.mpr ⟨heading, member, beq_iff_eq.mpr same.symm⟩
  calc
    claims headings heading.text (before.map .claim) =
        before.countP fun text => key headings text == heading.text := claims_map_claim before
    _ = passed.countP fun other => key headings other.text == heading.text := by
      rw [onlyKnown, known, List.countP_map]
      rfl
    _ = passed.countP fun other => other.text == heading.text := by
      apply List.countP_congr
      intro other isPassed
      rw [key_text (inside other isPassed)]
    _ = (anchorsFor passed heading.text).length := by
      rw [anchorsFor, List.length_map, List.countP_eq_length_filter]

theorem anchorsFor_append_cons (passed : List Heading) (heading : Heading)
    (ahead : List Heading) :
    anchorsFor (passed ++ heading :: ahead) heading.text =
      anchorsFor passed heading.text ++ heading.anchor :: anchorsFor ahead heading.text := by
  simp [anchorsFor]

/-- A claim is answered for the heading whose turn it is: the one that carries its key and before
which as many carry it as claims of it came before. -/
theorem claim_in_turn {before : List Call} {text : Text} {passed ahead : List Heading}
    {heading : Heading} (split : headings = passed ++ heading :: ahead)
    (asks : key headings text = heading.text)
    (turn : claims headings heading.text before = (anchorsFor passed heading.text).length) :
    ((after { headings } before).claim text).1 = some heading.anchor := by
  have anchors : anchorsFor headings heading.text = anchorsFor passed heading.text ++
      heading.anchor :: anchorsFor ahead heading.text := by
    rw [split, anchorsFor_append_cons]
  have place : min (anchorsFor passed heading.text).length
      ((anchorsFor headings heading.text).length - 1) = (anchorsFor passed heading.text).length := by
    rw [anchors, List.length_append, List.length_cons]
    omega
  rw [claim_after, asks, turn, place, anchors, List.getElem?_append_right le_rfl, Nat.sub_self,
    List.getElem?_cons_zero]

theorem claim_next (before : List Text) {passed ahead : List Heading} {heading : Heading}
    (split : headings = passed ++ heading :: ahead)
    (known : before.filter (isKnown headings) = passed.map (·.text)) :
    ((after { headings } (before.map .claim)).claim heading.text).1 = some heading.anchor := by
  have inside : ∀ other ∈ passed, other ∈ headings := by
    intro other isPassed
    rw [split]
    exact List.mem_append_left _ isPassed
  have member : heading ∈ headings := by
    rw [split]
    exact List.mem_append_right passed (List.mem_cons_self ..)
  exact claim_in_turn split (key_text member) (claims_of_known inside known member)

theorem answers_ahead (before rest : List Text) {passed ahead : List Heading}
    (split : headings = passed ++ ahead)
    (known : before.filter (isKnown headings) = passed.map (·.text))
    (coming : rest.filter (isKnown headings) = ahead.map (·.text)) :
    ((after { headings } (before.map .claim)).answers (rest.map .claim)).filterMap id =
      ahead.map (·.anchor) := by
  -- Each known text that is claimed moves a heading from `ahead` to `passed`.
  induction rest generalizing before passed ahead with
  | nil =>
    rw [List.map_eq_nil_iff.mp coming.symm]
    rfl
  | cons text rest ih =>
    have next : after { headings } ((before ++ [text]).map .claim) =
        ((after { headings } (before.map .claim)).answer (.claim text)).2 := by
      rw [List.map_append]
      exact after_concat _ _ _
    have asked : (before ++ [text]).filter (isKnown headings) =
        passed.map (·.text) ++ [text].filter (isKnown headings) := by
      rw [List.filter_append, known]
    rw [List.map_cons, answers, ← next, answer_claim]
    cases isKnown : isKnown headings text with
    | false =>
      have none : ((after { headings } (before.map .claim)).claim text).1 = none := by
        simp only [claim_after, anchorsFor_key_eq_nil_iff.mpr isKnown, List.getElem?_nil]
      rw [List.filter_cons_of_neg (by simp [isKnown])] at coming asked
      rw [none, List.filterMap_cons_none rfl]
      exact ih (before ++ [text]) split (asked.trans (List.append_nil _)) coming
    | true =>
      rw [List.filter_cons_of_pos isKnown] at coming asked
      obtain ⟨heading, others, rfl, rfl, later⟩ := List.map_eq_cons_iff.mp coming.symm
      have regrouped : headings = (passed ++ [heading]) ++ others := by
        rw [split, List.append_assoc, List.singleton_append]
      have passedNow : (before ++ [heading.text]).filter (Walk.isKnown headings) =
          (passed ++ [heading]).map (·.text) := by
        rw [asked, List.map_append]
        rfl
      rw [claim_next before split known]
      exact congrArg (heading.anchor :: ·)
        (ih (before ++ [heading.text]) regrouped passedNow later.symm)

/-- After any calls, a claim of a text is answered with the anchor of one of the headings that carry
its key: the one with the number of claims of the key since the last restart, or the last when they
are used up, and with nothing if no heading carries it. Other calls make no difference. When the
known texts that are claimed are those of the headings in order, the anchors come in order too. -/
theorem answers_claim (headings : List Heading) :
    (∀ (before : List Call) (text : Text) (later : List Call),
      let wanted := key headings text
      let carriers := headings.filter fun heading => heading.text == wanted
      let count := claims headings wanted before
      let related := before.filter (·.concerns headings wanted)
      let answer := (answers { headings } (before ++ .claim text :: later))[before.length]?
      (answer = some none ↔ ∀ heading ∈ headings, heading.text ≠ wanted) ∧
        answer = some ((carriers[min count (carriers.length - 1)]?).map (·.anchor)) ∧
        answer = (answers { headings } (related ++ [.claim text]))[related.length]?) ∧
    ∀ texts : List Text, texts.filter (isKnown headings) = headings.map (·.text) →
      (answers { headings } (texts.map .claim)).filterMap id = headings.map (·.anchor) := by
  refine ⟨?_, ?_⟩
  · intro before text later wanted carriers count related answer
    have given : answer = some ((carriers[min count (carriers.length - 1)]?).map (·.anchor)) := by
      change (answers { headings } (before ++ .claim text :: later))[before.length]? = _
      rw [answers_getElem?, answer_claim, claim_after, anchorsFor, List.getElem?_map,
        List.length_map]
    refine ⟨?_, given, ?_⟩
    · rw [given, ← anchorsFor_eq_nil_iff, anchorsFor, List.map_eq_nil_iff, Option.some_inj,
        Option.map_eq_none_iff, List.getElem?_eq_none_iff]
      change carriers.length ≤ min count (carriers.length - 1) ↔ carriers = []
      rw [← List.length_eq_zero_iff]
      omega
    · change (answers { headings } (before ++ .claim text :: later))[before.length]? = _
      rw [answers_getElem?, answers_getElem?, answer_claim, answer_claim, claim_after, claim_after,
        claims_filter_concerns]
  · intro texts known
    exact answers_ahead [] texts (List.nil_append headings).symm rfl known

/-- A walk over two headings of one text and two of another, with texts in between that no heading
has. A text with markup claims the same key as the one without. -/
theorem answers_claim_repeated :
    let headings := (Contents.ofDocument false "# B\n# *A*\n# B\n# A".toList).headings
    let texts := ["B", "C", "A", "", "B", "A"].map String.toList
    let before := [.claim "B".toList, .restart, .claim "*B*".toList, .look 1, .claim "A".toList]
    texts.filter (isKnown headings) = headings.map (·.text) ∧
      (answers { headings } (texts.map .claim)).filterMap id =
        ["b", "a", "b-1", "a-1"].map String.toList ∧
      (answers { headings } (before ++ [.claim "B".toList]))[5]? = some (some "b-1".toList) := by
  intro headings texts before
  obtain ⟨each, walked⟩ := answers_claim headings
  have known : texts.filter (isKnown headings) = headings.map (·.text) := by decide +kernel
  obtain ⟨-, given, -⟩ := each before "B".toList []
  exact ⟨known, (walked texts known).trans (by decide +kernel), given.trans (by decide +kernel)⟩

end MarkdownReview.Walk
