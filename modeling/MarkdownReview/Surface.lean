import MarkdownReview.Review
import MarkdownReview.Text.Quoted
/-!
The editing surface: its measures in pixels, and how wide text is on it.
-/

namespace MarkdownReview.Surface

abbrev Measurer := Text → Except Text Float

structure Metrics where
  fontSize : Float
  lineHeight : Float
  paddingLeft : Float
  paddingTop : Float
  clientWidth : Float
  /-- The same as on the left where it is not given. -/
  paddingRight : Option Float := none
  measure : Measurer

def Metrics.rightEdge (metrics : Metrics) : Float :=
  metrics.clientWidth - metrics.paddingRight.getD metrics.paddingLeft

def averageWidth (fontSize ratio : Float) (length : Nat) : Float :=
  Float.ofNat length * fontSize * ratio

def averageMeasurer (fontSize ratio : Float) : Measurer :=
  fun text => .ok (averageWidth fontSize ratio text.length)

/-!
Highlights: rectangles on the surface under passages of the document. A passage is looked for
where it was found, and else at its first place on the line.
-/

structure Highlight where
  top : Float
  left : Float
  width : Float
  height : Float
  start : Int
  stop : Int
  text : Text

inductive Cause
  | noSuchLine
  | noText
  | notOnLine (text : Text)
  | notMeasured (reason : Text)
  | outsideBox
deriving DecidableEq, Repr

def Cause.reason : Cause → String
  | noSuchLine => "line is out of range"
  | noText => "warning has no text"
  | notOnLine text => String.ofList (Text.quoted text) ++ " not found on line"
  | notMeasured reason => "text measurement failed: " ++ String.ofList reason
  | outsideBox => "match starts outside the content box"

structure Fault where
  line : Int
  cause : Cause
deriving DecidableEq, Repr

def Fault.message (fault : Fault) : String :=
  s!"Cannot place highlight on line {fault.line}: {fault.cause.reason}"

def standsAt (line text : Text) (offset : Nat) : Bool :=
  (line.drop offset).take text.length == text

/-- The place of a passage on a line that starts at `lineStart`. -/
def placeOn? (line : Text) (lineStart : Nat) (passage : Passage) : Option Nat :=
  let recorded := passage.start - lineStart
  if 0 ≤ recorded ∧ standsAt line passage.text recorded.toNat then some recorded.toNat
  else Text.find? passage.text line

/-- The lesser of two widths; the second where neither is less. -/
def clipped (width room : Float) : Float := if room < width then room else width

/-- The rectangle for text that stands at `offset` of a line with the given number and start,
after text of the width `before`. -/
def rectangle (ratio : Float) (metrics : Metrics) (passage : Passage) (lineStart offset : Nat)
    (before : Float) : Except Cause Highlight :=
  let left := metrics.paddingLeft + before
  let room := metrics.rightEdge - left
  if room ≤ 0 then .error .outsideBox
  else
    let start := lineStart + offset
    .ok {
      top := metrics.paddingTop + Float.ofInt (passage.line - 1) * metrics.lineHeight
      left
      width := clipped (averageWidth metrics.fontSize ratio passage.text.length) room
      height := metrics.lineHeight
      start
      stop := (start + passage.text.length : Nat)
      text := passage.text }

def attempt (ratio : Float) (metrics : Metrics) (lines : List Text) (passage : Passage) :
    Except Cause Highlight :=
  match Document.line? lines passage.line with
  | none => .error .noSuchLine
  | some line =>
    if passage.text.isEmpty then .error .noText
    else
      let lineStart := Document.lineStart lines passage.line
      match placeOn? line lineStart passage with
      | none => .error (.notOnLine passage.text)
      | some offset =>
        match metrics.measure (line.take offset) with
        | .error reason => .error (.notMeasured reason)
        | .ok before => rectangle ratio metrics passage lineStart offset before

def highlight (ratio : Float) (metrics : Metrics) (lines : List Text) (passage : Passage) :
    Except Fault Highlight :=
  match attempt ratio metrics lines passage with
  | .error cause => .error ⟨passage.line, cause⟩
  | .ok rectangle => .ok rectangle

def highlights (ratio : Float) (metrics : Metrics) (document : Text) (passages : List Passage) :
    List Highlight :=
  let lines := Document.lines document
  passages.filterMap fun passage => (highlight ratio metrics lines passage).toOption

/-!
Highlights move against the scroll position; those wholly above or below the viewport are dropped
where its height is known.
-/

def Highlight.scrolled (top left : Float) (highlight : Highlight) : Highlight :=
  { highlight with top := highlight.top - top, left := highlight.left - left }

def Highlight.isVisible (viewport : Float) (highlight : Highlight) : Bool :=
  decide (highlight.top + highlight.height > 0) && decide (highlight.top < viewport)

def scroll (top left : Float) (viewport : Option Float) (highlights : List Highlight) :
    List Highlight :=
  let moved := highlights.map (·.scrolled top left)
  match viewport with
  | none => moved
  | some height => moved.filter (·.isVisible height)

end MarkdownReview.Surface
