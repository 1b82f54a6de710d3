import MarkdownReview.Code
import MarkdownReview.Heading.PlainText
import MarkdownReview.Settings.Basic
/-!
Open lines: those in which code is looked for. They are not covered by a fence, hold more than
blanks, and do not start with a heading mark.
-/

namespace MarkdownReview

/-- A line with its number, counted from one, and its offset in the document. -/
structure OpenLine where
  number : Nat
  start : Nat
  text : Text
deriving DecidableEq, Repr

namespace OpenLine

def mayHoldCode (line : Text) : Bool :=
  match Text.trim line with
  | [] => false
  | c :: _ => c != headingMark

/-- The open lines among lines that a scan in the given state meets next. The first of the lines
has the given number and offset. -/
def scan : Document.FenceState → (number start : Nat) → List Text → List OpenLine
  | _, _, _, [] => []
  | state, number, start, line :: rest =>
    let later := scan (state.step line) (number + 1) (start + line.length + 1) rest
    if !state.covers line && mayHoldCode line then ⟨number, start, line⟩ :: later else later

def ofLines (lines : List Text) : List OpenLine := scan {} 1 0 lines

def ofDocument (document : Text) : List OpenLine := ofLines (Document.lines document)

end OpenLine

/-!
Hints: every open line that has the shape of code, with the beginning of what stands on it.
-/

structure Hint where
  line : Nat
  snippet : Text
deriving DecidableEq, Repr

namespace Hint

def message (hint : Hint) : String :=
  let snippet := String.ofList hint.snippet
  s!"Line {hint.line} may contain code, wrap it in a code block: ```{snippet}```"

def ofLine? (settings : Settings) (line : OpenLine) : Option Hint :=
  if Code.isSuspect line.text then
    some ⟨line.number, Text.preview settings.hintLength (Text.trim line.text)⟩
  else none

def ofDocument (settings : Settings) (document : Text) : List Hint :=
  (OpenLine.ofDocument document).filterMap (ofLine? settings)

end Hint

/-!
Code uses: statement forms on open lines, with their place in the document.
-/

/-- Text that stood at a place of a document when it was found. The document may have changed
since, so none of the numbers need fit it. -/
structure Passage where
  line : Int
  text : Text
  start : Int
  stop : Int
deriving DecidableEq, Repr

structure CodeUse extends Passage where
  language : Code.Language
deriving DecidableEq, Repr

namespace CodeUse

def ofLine? (settings : Settings) (line : OpenLine) : Option CodeUse :=
  (Code.firstMatch? line.text).map fun found =>
    let whole := Text.slice line.text found.place.start found.place.stop
    let snippet := Text.within settings.useLength whole
    let start := line.start + found.place.start
    ⟨⟨line.number, snippet, start, (start + snippet.length : Nat)⟩, found.language⟩

def ofDocument (settings : Settings) (document : Text) : List CodeUse :=
  (OpenLine.ofDocument document).filterMap (ofLine? settings)

end CodeUse

/-!
Findings of the two summaries of a document. The quick check scores its open lines; the one before
saving reports each code use with the line that it stands on.
-/

def unclosedFenceMessage : String :=
  "Odd number of ``` fence markers; a code block is not closed"

namespace QuickCheck

inductive Finding
  | unclosedFence
  | highScore (line : Nat)
deriving DecidableEq, Repr

def Finding.message : Finding → String
  | unclosedFence => unclosedFenceMessage
  | highScore line => s!"Line {line} may contain code outside a code block"

def highScores (settings : Settings) (lines : List Text) : List Finding :=
  (OpenLine.ofLines lines).filterMap fun line =>
    if settings.leastScore ≤ Code.score line.text then some (.highScore line.number) else none

def findings (settings : Settings) (document : Text) : List Finding :=
  let lines := Document.lines document
  (if Document.endsInside lines then [.unclosedFence] else []) ++ highScores settings lines

end QuickCheck

namespace SaveCheck

inductive Finding
  | unclosedFence
  | unfenced (use : CodeUse) (quote : Text)
deriving DecidableEq, Repr

def Finding.message : Finding → String
  | unclosedFence => unclosedFenceMessage
  | unfenced use quote =>
    let snippet := String.ofList use.text
    let quote := String.ofList quote
    s!"Line {use.line}: unfenced {use.language.name} code \"{snippet}\" in \"{quote}\""

def report (settings : Settings) (lines : List Text) (use : CodeUse) : Finding :=
  let named := (Document.line? lines use.line).getD []
  .unfenced use (Text.preview settings.quoteLength (Text.trim named))

def findings (settings : Settings) (document : Text) : List Finding :=
  let lines := Document.lines document
  (if Document.endsInside lines then [.unclosedFence] else []) ++
    (CodeUse.ofDocument settings document).map (report settings lines)

end SaveCheck

/-!
Words as a reader of mixed scripts counts them: one for each ideograph, and one for each token
between blanks in what is left without the ideographs.
-/

def wordCount (text : Text) : Nat :=
  let clean := Text.tidied text
  if clean = [] then 0
  else
    clean.countP Text.isIdeograph +
      (Text.tokens (clean.filter fun c => !Text.isIdeograph c)).length

end MarkdownReview
