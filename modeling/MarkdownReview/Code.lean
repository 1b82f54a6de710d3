import MarkdownReview.Document
import MarkdownReview.Text.Word
/-!
Statement forms: the openings of well-known statements of two languages. A form is read piece by
piece, each piece as far as it goes, and a line is searched for the first form that stands outside
inline code.
-/

namespace MarkdownReview.Code

open Document (Span)

inductive Language
  | python
  | javaScript
deriving DecidableEq, Repr

def Language.name : Language → String
  | .python => "Python"
  | .javaScript => "JavaScript"

inductive Piece
  /-- A word starts or ends here. -/
  | edge
  | words (alternatives : List Text)
  /-- All the characters ahead that belong, and no fewer than `least`. -/
  | run (least : Nat) (belongs : Char → Bool)
  | one (choices : List Char)

def isEdge (before after : Option Char) : Bool :=
  before.any Text.isWord != after.any Text.isWord

def Piece.width? (before : Option Char) (ahead : Text) : Piece → Option Nat
  | edge => if isEdge before ahead.head? then some 0 else none
  | words alternatives => (alternatives.find? (·.isPrefixOf ahead)).map (·.length)
  | run least belongs =>
    let width := (ahead.takeWhile belongs).length
    if least ≤ width then some width else none
  | one choices => if ahead.head?.any choices.contains then some 1 else none

def lastTaken (before : Option Char) (ahead : Text) : Nat → Option Char
  | 0 => before
  | width + 1 => ahead[width]?

def pieces? : List Piece → Option Char → Text → Option Nat
  | [], _, _ => some 0
  | piece :: rest, before, ahead =>
    match piece.width? before ahead with
    | none => none
    | some width =>
      (pieces? rest (lastTaken before ahead width) (ahead.drop width)).map (width + ·)

structure Form where
  language : Language
  pieces : List Piece

namespace Form

def width? (form : Form) (before : Option Char) (ahead : Text) : Option Nat :=
  pieces? form.pieces before ahead

/-- Where the form stands, from left to right, no two places sharing a character. The text is at
`offset`, and the next `skip` characters belong to the place before. -/
def placesFrom (form : Form) : (skip offset : Nat) → (before : Option Char) → Text → List Span
  | _, _, _, [] => []
  | skip + 1, offset, _, c :: rest => placesFrom form skip (offset + 1) (some c) rest
  | 0, offset, before, c :: rest =>
    match form.width? before (c :: rest) with
    | some width =>
      ⟨offset, offset + width⟩ :: placesFrom form (width - 1) (offset + 1) (some c) rest
    | none => placesFrom form 0 (offset + 1) (some c) rest

def places (form : Form) (line : Text) : List Span := placesFrom form 0 0 none line

def firstOutside (form : Form) (spans : List Span) (line : Text) : Option Span :=
  (form.places line).find? fun place => !spans.any place.meets

end Form

def someBlanks : Piece := .run 1 Text.isBlank
def anyBlanks : Piece := .run 0 Text.isBlank
def name : Piece := .run 1 Text.isWord
def dottedName : Piece := .run 1 fun c => Text.isWord c || c == '.'
def word (text : String) : Piece := .words [text.toList]

def forms : List Form :=
  [⟨.python, [.edge, word "from", someBlanks, dottedName, someBlanks, word "import", .edge]⟩,
   ⟨.python, [.edge, word "import", someBlanks, dottedName]⟩,
   ⟨.python, [.edge, word "def", someBlanks, name, anyBlanks, .one ['(']]⟩,
   ⟨.python, [.edge, word "class", someBlanks, name, anyBlanks, .one [':', '(']]⟩,
   ⟨.python, [.edge, word "print", anyBlanks, .one ['(']]⟩,
   ⟨.javaScript, [.edge, .words ["const".toList, "let".toList, "var".toList], someBlanks, name,
     anyBlanks, .one ['=']]⟩,
   ⟨.javaScript, [.edge, word "function", someBlanks, name, anyBlanks, .one ['(']]⟩,
   ⟨.javaScript, [.edge, word "console.log("]⟩,
   ⟨.javaScript, [word "=>", anyBlanks, .one ['\x7b']]⟩]

structure Match where
  place : Span
  language : Language
deriving DecidableEq, Repr

/-- The match that starts first, and of two that start together the first given. -/
def earlier (best : Option Match) (found : Match) : Option Match :=
  match best with
  | none => some found
  | some held => if found.place.start < held.place.start then some found else some held

def firstMatch? (line : Text) : Option Match :=
  let spans := Document.codeSpans line
  let found := forms.filterMap fun form =>
    (form.firstOutside spans line).map fun place => ⟨place, form.language⟩
  found.foldl earlier none

end MarkdownReview.Code

/-!
Patterns that a text is searched for. Every choice in a pattern is open: a run takes all it can, and
gives back what it took for as long as the pieces after it do not stand there.
-/

namespace MarkdownReview.Code

/-- A run of at least so many characters that belong, the longest one tried first. -/
def runReads (belongs : Char → Bool) (next : Option Char → Text → Bool) :
    (least : Nat) → (before : Option Char) → Text → Bool
  | least, before, [] => least == 0 && next before []
  | least, before, c :: rest =>
    (belongs c && runReads belongs next (least - 1) (some c) rest) ||
      (least == 0 && next before (c :: rest))

def Piece.reads (next : Option Char → Text → Bool) (before : Option Char) (ahead : Text) :
    Piece → Bool
  | edge => isEdge before ahead.head? && next before ahead
  | words alternatives =>
    alternatives.any fun word =>
      match word.isPrefixOf? ahead with
      | none => false
      | some rest => next (word.getLast?.or before) rest
  | run least belongs => runReads belongs next least before ahead
  | one choices =>
    match ahead with
    | [] => false
    | c :: rest => choices.contains c && next (some c) rest

def reads (accepts : Text → Bool) : List Piece → Option Char → Text → Bool
  | [], _, ahead => accepts ahead
  | piece :: rest, before, ahead => piece.reads (reads accepts rest) before ahead

/-- A line break after it does not keep a place from being the end. -/
def isAtEnd (ahead : Text) : Bool := ahead == [] || ahead == ['\n']

/-- Pieces, written in one of some ways, that stand anywhere, or at the start or the end alone. -/
structure Pattern where
  atStart : Bool := false
  atEnd : Bool := false
  ways : List (List Piece)

def withOptional (first optional last : List Piece) : List (List Piece) :=
  [first ++ optional ++ last, first ++ last]

namespace Pattern

def standsAhead (pattern : Pattern) (before : Option Char) (ahead : Text) : Bool :=
  pattern.ways.any fun pieces =>
    reads (fun rest => !pattern.atEnd || isAtEnd rest) pieces before ahead

def standsFrom (pattern : Pattern) : (before : Option Char) → Text → Bool
  | before, [] => pattern.standsAhead before []
  | before, c :: rest =>
    pattern.standsAhead before (c :: rest) || standsFrom pattern (some c) rest

def isIn (pattern : Pattern) (text : Text) : Bool :=
  if pattern.atStart then pattern.standsAhead none text else pattern.standsFrom none text

end Pattern

/-!
Shapes that code has and prose seldom has. One of them is enough to suspect a line; they are read
off the line without the blanks at its ends.
-/

def keywords : List Text :=
  ["import", "from", "def", "class", "const", "let", "var", "function", "return", "if", "for",
   "while"].map String.toList

def arguments : Piece := .run 0 (· != ')')

def call : List Piece := [name, anyBlanks, .one ['('], arguments, .one [')'], anyBlanks]

def member : List Piece := [name, .one ['.'], name]

def nested : List Piece := [.one ['('], arguments, .one ['('], arguments, .one [')']]

def bodyMarks : List Char := ['\x7b', '=', '>']

def shapes : List Pattern :=
  [{ atStart := true, ways := [[.words keywords, .edge]] },
   { ways := withOptional call [.one [':']] [.one bodyMarks] },
   { ways := withOptional member [.one ['.'], name] [] },
   { ways := [[.one ['[', ']']]] },
   { atEnd := true, ways := [[.one [';']]] },
   { ways := [[.one ['=']]] },
   { ways := [[word "=>"]] },
   { atStart := true, ways := [[.one ['$']]] },
   { ways := [nested] }]

def isSuspect (line : Text) : Bool :=
  let text := Text.trim line
  shapes.any fun shape => shape.isIn text

/-!
Features of code that are counted to score a line: a semicolon, empty parentheses, a member at the
start, and an argument in parentheses right after a word.
-/

def features : List Pattern :=
  [{ ways := [[.one [';']]] },
   { ways := [[word "()"]] },
   { atStart := true, ways := [[name, .one ['.'], name]] },
   { ways := [[name, .one ['('], name]] }]

def score (line : Text) : Nat :=
  let text := Text.trim line
  features.countP fun feature => feature.isIn text

end MarkdownReview.Code
