import MarkdownReview.Proofs.Heading.Walk
import MarkdownReview.Proofs.Surface
import MarkdownReview.Session
/-!
What holds all through a session. The uses, the highlights and the walk that it keeps are results on
documents that it held at some step, however they were edited since, and a walk is led by the calls
on it alone.
-/

namespace MarkdownReview.Session

def visited : Session → List Step → List Session
  | _, [] => []
  | session, step :: rest => session :: visited (session.step step).1 rest

/-- What a session keeps was found in sessions of the past. -/
structure IsGrounded (past : List Session) (session : Session) : Prop where
  uses : session.uses = [] ∨ ∃ earlier ∈ past,
    session.uses = CodeUse.ofDocument earlier.settings earlier.document
  highlights : ∀ mark ∈ session.highlights, ∃ earlier ∈ past,
    Text.slice earlier.document mark.start mark.stop = mark.text ∧
      ∃ use ∈ earlier.uses, use.text = mark.text
  walk : ∀ walk ∈ session.walk, ∃ earlier ∈ past, walk.headings = earlier.contents.headings

theorem step_of_refused {session : Session} {step : Step} {unknown : UnknownSetting}
    (refused : (session.step step).2 = .refused unknown) : (session.step step).1 = session := by
  cases step with
  | configure overrides =>
    simp only [Session.step] at refused ⊢
    split
    · rfl
    · next overridden =>
      rw [overridden] at refused
      cases refused
  | _ => cases refused

theorem claim_eq (session : Session) (text : Text) :
    session.claim text = ((session.walk.bind fun walk => (walk.claim text).1),
      { session with walk := session.walk.map fun walk => (walk.claim text).2 }) := by
  obtain ⟨document, profile, uses, highlights, walk⟩ := session
  cases walk <;> rfl

theorem headings_claim (walk : Walk) (text : Text) :
    (walk.claim text).2.headings = walk.headings := by
  rw [Walk.claim_eq]
  dsimp only
  split <;> rfl

theorem isGrounded_step {past : List Session} {session : Session} (held : session ∈ past)
    (grounded : session.IsGrounded past) (step : Step) :
    (session.step step).1.IsGrounded past := by
  have uses := grounded.uses
  have highlights := grounded.highlights
  have walk := grounded.walk
  cases step with
  | configure overrides =>
    simp only [Session.step]
    split
    · exact grounded
    · exact ⟨uses, highlights, walk⟩
  | list =>
    refine ⟨uses, highlights, ?_⟩
    rintro _ ⟨⟩
    exact ⟨session, held, rfl⟩
  | claim text =>
    simp only [Session.step, claim_eq]
    refine ⟨uses, highlights, ?_⟩
    intro claimed isWalk
    obtain ⟨before, wasWalk, rfl⟩ := Option.map_eq_some_iff.mp isWalk
    rw [headings_claim]
    exact walk before wasWalk
  | restart =>
    refine ⟨uses, highlights, ?_⟩
    intro restarted isWalk
    obtain ⟨before, wasWalk, rfl⟩ := Option.map_eq_some_iff.mp isWalk
    exact walk before wasWalk
  | locate => exact ⟨.inr ⟨session, held, rfl⟩, highlights, walk⟩
  | place metrics =>
    refine ⟨uses, ?_, walk⟩
    intro mark member
    obtain ⟨cut, passage, known, text⟩ := Surface.marks_of_mem_highlights member
    obtain ⟨use, isUse, rfl⟩ := List.mem_map.mp known
    exact ⟨session, held, cut, use, isUse, text⟩
  | scroll top left viewport =>
    refine ⟨uses, ?_, walk⟩
    intro mark member
    rw [Session.step, Surface.scroll_eq_map_filter] at member
    obtain ⟨kept, isKept, rfl⟩ := List.mem_map.mp member
    exact highlights kept (List.mem_of_mem_filter isKept)
  | _ => exact ⟨uses, highlights, walk⟩

theorem isGrounded_after {past : List Session} {session : Session}
    (grounded : session.IsGrounded past) {steps : List Step}
    (held : ∀ earlier ∈ session.visited steps, earlier ∈ past) :
    (session.after steps).IsGrounded past := by
  induction steps generalizing session with
  | nil => exact grounded
  | cons step rest ih =>
    rw [visited, List.forall_mem_cons] at held
    exact ih (isGrounded_step held.1 grounded step) held.2

/-- Whatever is done in a session, the uses that it keeps are those of one of its documents, each
highlight cuts the text of a use out of a document that it was drawn on, and the walk is over the
headings of one of its documents. -/
theorem isGrounded_of_fresh (document : Text) (profile : Profile) (steps : List Step) :
    let fresh : Session := { document, profile }
    (fresh.after steps).IsGrounded (fresh.visited steps) := by
  intro fresh
  apply isGrounded_after
  · refine ⟨.inl rfl, ?_, ?_⟩
    · exact fun _ none => absurd none List.not_mem_nil
    · exact fun _ none => nomatch none
  · exact fun _ visited => visited

def Step.call? : Step → Option Walk.Call
  | .claim text => some (.claim text)
  | .restart => some .restart
  | _ => none

theorem map_after_nil (walk : Option Walk) : walk.map (·.after []) = walk := by
  cases walk <;> rfl

theorem walk_step (session : Session) {step : Step} (goesOn : step ≠ .list) :
    (session.step step).1.walk = session.walk.map (·.after step.call?.toList) := by
  have idle : session.walk = session.walk.map (·.after []) := (map_after_nil session.walk).symm
  cases step with
  | list => exact absurd rfl goesOn
  | configure overrides =>
    simp only [Session.step]
    split <;> exact idle
  | claim text =>
    simp only [Session.step, claim_eq]
    rfl
  | restart => rfl
  | _ => exact idle

/-- Until the headings are listed again, a walk is where the claims and the restarts have led it.
Nothing else that is done in the session has a part in it. -/
theorem walk_after (session : Session) {steps : List Step} (goesOn : Step.list ∉ steps) :
    (session.after steps).walk = session.walk.map (·.after (steps.filterMap Step.call?)) := by
  induction steps generalizing session with
  | nil => exact (map_after_nil session.walk).symm
  | cons step rest ih =>
    rw [List.mem_cons, not_or] at goesOn
    have later := ih (session.step step).1 goesOn.2
    rw [walk_step session fun same => goesOn.1 same.symm, Option.map_map] at later
    refine later.trans ?_
    congr 1
    funext walk
    cases call : step.call? with
    | none =>
      rw [List.filterMap_cons_none call]
      rfl
    | some own =>
      rw [List.filterMap_cons_some call]
      rfl

theorem anchor_of_claim_after (session : Session) {steps : List Step} (goesOn : Step.list ∉ steps)
    (text : Text) :
    ((session.after steps).claim text).1 = session.walk.bind fun walk =>
      ((walk.after (steps.filterMap Step.call?)).claim text).1 := by
  rw [claim_eq, walk_after session goesOn, Option.bind_map]
  rfl

end MarkdownReview.Session
