import MarkdownReview.Document
import MarkdownReview.Text.Lowercase
import MarkdownReview.Text.Word
/-!
Heading lines: one to three marks at the start of an uncovered line, at least one blank, and text.
-/

namespace MarkdownReview

def headingMark : Char := '#'

structure HeadingLine where
  level : Nat
  rest : Text
deriving DecidableEq, Repr

namespace HeadingLine

def ofLine? (line : Text) : Option HeadingLine :=
  let level := (line.takeWhile (· == headingMark)).length
  let after := line.dropWhile (· == headingMark)
  let rest := Text.trimStart after
  if 1 ≤ level ∧ level ≤ 3 ∧ rest.length < after.length ∧ rest ≠ [] then some ⟨level, rest⟩
  else none

/-- The heading lines among lines that a scan in the given state meets next, with their numbers;
the first of the lines has the given one. -/
def scan : Document.FenceState → Nat → List Text → List (Nat × HeadingLine)
  | _, _, [] => []
  | state, number, line :: rest =>
    let later := scan (state.step line) (number + 1) rest
    if state.covers line then later
    else
      match ofLine? line with
      | some heading => (number, heading) :: later
      | none => later

def ofDocument (lines : List Text) : List (Nat × HeadingLine) := scan {} 1 lines

end HeadingLine
end MarkdownReview

/-!
What a reader sees of heading text: leading marks go, links and images give way to their labels,
and paired marks of emphasis and code are unwrapped, one kind after the other.
-/

namespace MarkdownReview.PlainText

structure Replacement where
  text : Text
  width : Nat
deriving DecidableEq, Repr

abbrev Rule := (before : Option Char) → (ahead : Text) → Option Replacement

/-- Replaces from left to right. The next `skip` characters are replaced already. -/
def replaceFrom (rule : Rule) : (skip : Nat) → (before : Option Char) → Text → Text
  | _, _, [] => []
  | skip + 1, _, c :: rest => replaceFrom rule skip (some c) rest
  | 0, before, c :: rest =>
    match rule before (c :: rest) with
    | some found => found.text ++ replaceFrom rule (found.width - 1) (some c) rest
    | none => c :: replaceFrom rule 0 (some c) rest

def replace (rule : Rule) (text : Text) : Text := replaceFrom rule 0 none text

def bracketed? : Text → Option Replacement
  | '[' :: inner =>
    let label := inner.takeWhile (· != ']')
    match inner.dropWhile (· != ']') with
    | ']' :: '(' :: target =>
      let address := target.takeWhile (· != ')')
      if address.length < target.length then
        some ⟨label, label.length + address.length + 4⟩
      else none
    | _ => none
  | _ => none

def link : Rule := fun _ ahead =>
  match ahead with
  | '!' :: rest => (bracketed? rest).map fun found => ⟨found.text, found.width + 1⟩
  | _ => bracketed? ahead

/-- A pair of marks around text; one that stands alone touches no word character outside. -/
structure Wrapper where
  mark : Text
  standsAlone : Bool
deriving DecidableEq, Repr

namespace Wrapper

def outside (wrapper : Wrapper) (neighbour : Option Char) : Bool :=
  !(wrapper.standsAlone && neighbour.any Text.isWord)

def closes (wrapper : Wrapper) (ahead : Text) : Bool :=
  match wrapper.mark.isPrefixOf? ahead with
  | none => false
  | some after => wrapper.outside after.head?

/-- The shortest text of one line, not empty, that the closing mark follows. -/
def content? (wrapper : Wrapper) : Text → Option Text
  | [] => none
  | c :: rest =>
    if c = '\n' then none
    else if wrapper.closes rest then some [c]
    else (content? wrapper rest).map (c :: ·)

def rule (wrapper : Wrapper) : Rule := fun before ahead =>
  if wrapper.outside before then
    match wrapper.mark.isPrefixOf? ahead with
    | none => none
    | some inside =>
      (wrapper.content? inside).map fun content =>
        ⟨content, content.length + 2 * wrapper.mark.length⟩
  else none

end Wrapper

/-- Double marks come before single ones of the same character. -/
def wrappers : List Wrapper :=
  [⟨['*', '*'], false⟩, ⟨['_', '_'], true⟩, ⟨['*'], false⟩, ⟨['_'], true⟩,
   ⟨[Document.tick], false⟩]

def unmarked (text : Text) : Text :=
  Text.trimStart ((Text.trim text).dropWhile (· == headingMark))

def unwrap (text : Text) : Text :=
  wrappers.foldl (fun text wrapper => replace wrapper.rule text) text

def ofMarkup (text : Text) : Text := Text.trim (unwrap (replace link (unmarked text)))

end MarkdownReview.PlainText

/-!
The slug of a heading: its text in lower case without the characters that an anchor cannot hold,
each run of blanks one hyphen.
-/

namespace MarkdownReview.Slug

def hyphen : Char := '-'

def isAsciiWord (c : Char) : Bool := c == '_' || c.isAlphanum

/-- A slug keeps word characters of every script, or those of one script and ideographs. -/
def keeps (unicode : Bool) (c : Char) : Bool :=
  Text.isBlank c || c == hyphen ||
    (if unicode then Text.isWord c else isAsciiWord c || Text.isIdeograph c)

def ofText (unicode : Bool) (text : Text) : Text :=
  Text.joinBlanks hyphen false ((Text.lower text).filter (keeps unicode))

def isVoid (slug : Text) : Bool := slug.all (· == hyphen)

end MarkdownReview.Slug
