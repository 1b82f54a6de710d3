import MarkdownReview.Heading.Contents
import MarkdownReview.Settings.Profile
import MarkdownReview.Surface
/-!
An editing session: a document that changes, the profile in force, and the results that later
steps build on. Found uses and highlights stay as they are when the document changes.
-/

namespace MarkdownReview

structure Session where
  document : Text
  profile : Profile := Profile.standard
  uses : List CodeUse := []
  highlights : List Surface.Highlight := []
  walk : Option Walk := none

namespace Session

def settings (session : Session) : Settings := session.profile.settings

inductive Step
  | write (document : Text)
  | splice (start stop : Int) (insert : Text)
  | configure (overrides : Table Text Value)
  | list
  | claim (text : Text)
  | restart
  | hint
  | locate
  | place (metrics : Surface.Metrics)
  | scroll (top left : Float) (viewport : Option Float)
  | follow (places : List (Option Float)) (offset : Float)
  | checkQuickly
  | checkBeforeSaving
  | countWords

inductive Answer
  | length (count : Nat)
  | document (text : Text)
  | refused (unknown : UnknownSetting)
  | profile (checked : Except ProfileFault Profile)
  | contents (contents : Contents)
  | anchor (anchor : Option Text)
  | restarted
  | hints (hints : List Hint)
  | uses (uses : List CodeUse)
  | highlights (highlights : List Surface.Highlight)
  | quickFindings (findings : List QuickCheck.Finding)
  | saveFindings (findings : List SaveCheck.Finding)
  | words (count : Nat)

/-- Puts a text in place of the characters between two offsets. Where the second one comes first,
what stands between them is there twice. -/
def splice (start stop : Int) (insert : Text) (session : Session) : Session :=
  let old := session.document
  { session with
    document :=
      Text.upTo old start ++ insert ++ old.drop (Text.position old.length stop) }

def contents (session : Session) : Contents :=
  Contents.ofDocument session.settings.unicodeAnchors session.document

def claim (text : Text) (session : Session) : Option Text × Session :=
  match session.walk with
  | none => (none, session)
  | some walk =>
    let (anchor, walk) := walk.claim text
    (anchor, { session with walk := some walk })

/-- Takes a step. A changed profile is in force even where it is faulty, listing the headings starts
a new walk over them, and it is the uses found last that get highlights. -/
def step (session : Session) : Step → Session × Answer
  | .write document => ({ session with document }, .length document.length)
  | .splice start stop insert =>
    let next := session.splice start stop insert
    (next, .document next.document)
  | .configure overrides =>
    match session.profile.override overrides with
    | .error unknown => (session, .refused unknown)
    | .ok profile => ({ session with profile }, .profile profile.check)
  | .list =>
    let contents := session.contents
    ({ session with walk := some { headings := contents.headings } }, .contents contents)
  | .claim text =>
    let (anchor, next) := session.claim text
    (next, .anchor anchor)
  | .restart => ({ session with walk := session.walk.map Walk.restart }, .restarted)
  | .hint => (session, .hints (Hint.ofDocument session.settings session.document))
  | .locate =>
    let uses := CodeUse.ofDocument session.settings session.document
    ({ session with uses }, .uses uses)
  | .place metrics =>
    let passages := session.uses.map (·.toPassage)
    let highlights :=
      Surface.highlights session.settings.glyphRatio metrics session.document passages
    ({ session with highlights }, .highlights highlights)
  | .scroll top left viewport =>
    let highlights := Surface.scroll top left viewport session.highlights
    ({ session with highlights }, .highlights highlights)
  | .follow places offset =>
    let lookahead := session.settings.lookahead
    (session, .anchor (Heading.current? session.contents.headings places offset lookahead))
  | .checkQuickly =>
    (session, .quickFindings (QuickCheck.findings session.settings session.document))
  | .checkBeforeSaving =>
    (session, .saveFindings (SaveCheck.findings session.settings session.document))
  | .countWords => (session, .words (wordCount session.document))

def after (session : Session) (steps : List Step) : Session :=
  steps.foldl (fun session step => (session.step step).1) session

def answers : Session → List Step → List Answer
  | _, [] => []
  | session, step :: rest => (session.step step).2 :: answers (session.step step).1 rest

end Session
end MarkdownReview
