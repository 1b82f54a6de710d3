import MarkdownReview.Heading.PlainText
import MarkdownReview.Settings.Basic
/-!
Anchors for the headings of one document. A slug that is taken gets the first free of the suffixes
`-1`, `-2`, ..., and a slug of nothing but hyphens gives way to a numbered one.
-/

namespace MarkdownReview.Anchor

def candidate (slug : Text) : Nat → Text
  | 0 => slug
  | n + 1 => slug ++ Slug.hyphen :: Text.decimal (n + 1)

def firstFree (taken : List Text) (slug : Text) : (tries start : Nat) → Nat
  | 0, start => start
  | tries + 1, start =>
    if taken.contains (candidate slug start) then firstFree taken slug tries (start + 1)
    else start

/-- What is given out so far: the anchors, for each slug the number to try next, and how many
headings had no slug of their own. -/
structure Pool where
  taken : List Text := []
  next : Table Text Nat := []
  unnamed : Nat := 0

namespace Pool

def unnamedSlug (n : Nat) : Text := "heading-".toList ++ Text.decimal n

def named (pool : Pool) (slug : Text) : Text × Pool :=
  if Slug.isVoid slug then
    (unnamedSlug (pool.unnamed + 1), { pool with unnamed := pool.unnamed + 1 })
  else (slug, pool)

/-- Gives out the anchor of a named slug. One more try than there are taken anchors is enough,
since the candidates of a slug differ. -/
def draw (pool : Pool) (slug : Text) : Text × Pool :=
  let start := (pool.next.get? slug).getD 0
  let number := firstFree pool.taken slug (pool.taken.length + 1) start
  let anchor := candidate slug number
  (anchor, { pool with taken := anchor :: pool.taken, next := pool.next.insert slug (number + 1) })

def give (pool : Pool) (slug : Text) : Text × Pool :=
  let (slug, counted) := pool.named slug
  counted.draw slug

def giveAll : Pool → List Text → List Text
  | _, [] => []
  | pool, slug :: rest =>
    let (anchor, pool) := pool.give slug
    anchor :: giveAll pool rest

end Pool
end MarkdownReview.Anchor

/-!
The table of contents of a document: its headings in order, each with an anchor of its own, and
for each heading text the anchor of the last heading that has it.
-/

namespace MarkdownReview

structure Heading where
  anchor : Text
  display : Text
  /-- What renderers ask for the heading by. -/
  text : Text
  level : Nat := 1
  index : Nat := 0
  line : Nat := 1
deriving DecidableEq, Repr

structure Contents where
  headings : List Heading := []
  byText : Table Text Text := []

namespace Contents

def headingsFrom (unicode : Bool) : Anchor.Pool → Nat → List (Nat × HeadingLine) → List Heading
  | _, _, [] => []
  | pool, index, (line, heading) :: rest =>
    let text := PlainText.ofMarkup heading.rest
    let (anchor, pool) := pool.give (Slug.ofText unicode text)
    ⟨anchor, text, text, heading.level, index, line⟩ :: headingsFrom unicode pool (index + 1) rest

def indexByText (headings : List Heading) : Table Text Text :=
  headings.foldl (fun table heading => table.insert heading.text heading.anchor) []

def ofLines (unicode : Bool) (lines : List Text) : Contents :=
  let headings := headingsFrom unicode {} 0 (HeadingLine.ofDocument lines)
  ⟨headings, indexByText headings⟩

def ofDocument (unicode : Bool) (document : Text) : Contents :=
  ofLines unicode (Document.lines document)

def anchorAt? (headings : List Heading) (index : Int) : Option Text :=
  if index < 0 then none else (headings[index.toNat]?).map (·.anchor)

end Contents

/-!
A renderer's walk over the headings. Headings of one text are claimed in document order, one at
each call; when all are claimed the last is given again.
-/

/-- The headings walked over, and for each text how often it has been claimed. -/
structure Walk where
  headings : List Heading
  claimed : Table Text Nat := []

namespace Walk

def anchorsFor (headings : List Heading) (text : Text) : List Text :=
  (headings.filter (·.text == text)).map (·.anchor)

/-- A text that no heading has is looked up without its markup. -/
def key (headings : List Heading) (text : Text) : Text :=
  if headings.any (·.text == text) then text else PlainText.ofMarkup text

def claim (walk : Walk) (text : Text) : Option Text × Walk :=
  let key := key walk.headings text
  match anchorsFor walk.headings key with
  | [] => (none, walk)
  | first :: rest =>
    let count := (walk.claimed.get? key).getD 0
    ((first :: rest)[min count rest.length]?,
      { walk with claimed := walk.claimed.insert key (count + 1) })

def restart (walk : Walk) : Walk := { walk with claimed := [] }

end Walk
end MarkdownReview

/-!
The heading that is being read: the last one placed at or above a line a little below the top of
the view. A heading that is not shown has no place.
-/

namespace MarkdownReview.Heading

def readingLine (offset : Float) (lookahead : Option Float) : Float :=
  offset + lookahead.getD ({} : Settings).lookahead

def reached (threshold : Float) (place : Option Float) : Bool :=
  match place with
  | none => false
  | some top => decide (top ≤ threshold)

def firstReached? (threshold : Float) : List (Heading × Option Float) → Option Text
  | [] => none
  | (heading, place) :: rest =>
    if reached threshold place then some heading.anchor else firstReached? threshold rest

/-- Headings and places are walked from the last to the first. -/
def current? (headings : List Heading) (places : List (Option Float)) (offset : Float)
    (lookahead : Option Float := none) : Option Text :=
  if places.length ≠ headings.length then none
  else firstReached? (readingLine offset lookahead) (headings.reverse.zip places.reverse)

end MarkdownReview.Heading
