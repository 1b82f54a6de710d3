import MarkdownReview.Text.Quoted
/-!
Reading TOML: the pieces that carry no value. A reader answers what it has read and the rest, or
nothing where the text is malformed.
-/

namespace MarkdownReview.Toml

abbrev Reader (α : Type) := Text → Option (α × Text)

def isSpace (c : Char) : Bool := c == ' ' || c == '\t'

def isSpaceOrNewline (c : Char) : Bool := isSpace c || c == '\n'

def isControl (c : Char) : Bool := c.toNat < 0x20 || c.toNat == 0x7F

def isIllegal (c : Char) : Bool := isControl c && c != '\t'

def isIllegalInLines (c : Char) : Bool := isIllegal c && c != '\n'

def skipSpace (text : Text) : Text := text.dropWhile isSpace

def skipComment (text : Text) : Option Text :=
  match text with
  | '#' :: rest =>
    if (rest.takeWhile (· != '\n')).any isIllegal then none
    else some (rest.dropWhile (· != '\n'))
  | _ => some text

/-- Skips spaces, newlines and comments; each round but the last skips a comment. -/
def skipLines : (rounds : Nat) → Text → Option Text
  | 0, text => some text
  | rounds + 1, text =>
    let ahead := text.dropWhile isSpaceOrNewline
    match skipComment ahead with
    | none => none
    | some rest => if rest.length < ahead.length then skipLines rounds rest else some rest

def foldNewlines : Text → Text
  | '\r' :: '\n' :: rest => '\n' :: foldNewlines rest
  | c :: rest => c :: foldNewlines rest
  | [] => []

/-!
TOML strings. Basic ones have escapes and literal ones have none; both may be of one line or, in
triple quotes, of several.
-/

open Text (singleQuote doubleQuote)

def hexDigit? (c : Char) : Option Nat :=
  if '0' ≤ c ∧ c ≤ '9' then some (c.toNat - '0'.toNat)
  else if 'a' ≤ c ∧ c ≤ 'f' then some (c.toNat - 'a'.toNat + 10)
  else if 'A' ≤ c ∧ c ≤ 'F' then some (c.toNat - 'A'.toNat + 10)
  else none

def readHex : (width : Nat) → (value : Nat) → Reader Nat
  | 0, value, text => some (value, text)
  | _ + 1, _, [] => none
  | width + 1, value, c :: rest =>
    match hexDigit? c with
    | none => none
    | some digit => readHex width (value * 16 + digit) rest

def readCodePoint (width : Nat) : Reader Char := fun text =>
  match readHex width 0 text with
  | none => none
  | some (n, rest) => if n.isValidChar then some (Char.ofNat n, rest) else none

def readEscape : Reader Char
  | 'b' :: rest => some ('\x08', rest)
  | 't' :: rest => some ('\t', rest)
  | 'n' :: rest => some ('\n', rest)
  | 'f' :: rest => some ('\x0C', rest)
  | 'r' :: rest => some ('\r', rest)
  | '\\' :: rest => some ('\\', rest)
  | 'u' :: rest => readCodePoint 4 rest
  | 'U' :: rest => readCodePoint 8 rest
  | c :: rest => if c = doubleQuote then some (c, rest) else none
  | [] => none

def skipLineEnd (text : Text) : Option Text :=
  match skipSpace text with
  | '\n' :: rest => some (rest.dropWhile isSpaceOrNewline)
  | [] => some []
  | _ => none

def startsTriple (quote : Char) (text : Text) : Bool := [quote, quote, quote].isPrefixOf text

/-- Up to two quotes right before the end of a string in triple quotes belong to it. -/
def takeQuotes (quote : Char) (value rest : Text) : Text × Text :=
  let extra := min 2 (rest.takeWhile (· == quote)).length
  (value ++ List.replicate extra quote, rest.drop extra)

/-- The rest of a basic string of one line; `read` holds its characters so far in reverse. -/
def readBasic : (fuel : Nat) → (read : Text) → Reader Text
  | 0, _, _ => none
  | _ + 1, _, [] => none
  | fuel + 1, read, c :: rest =>
    if c = doubleQuote then some (read.reverse, rest)
    else if c = '\\' then
      match readEscape rest with
      | none => none
      | some (escaped, rest) => readBasic fuel (escaped :: read) rest
    else if isIllegal c then none
    else readBasic fuel (c :: read) rest

def readBasicLines : (fuel : Nat) → (read : Text) → Reader Text
  | 0, _, _ => none
  | _ + 1, _, [] => none
  | fuel + 1, read, c :: rest =>
    if c = doubleQuote then
      if startsTriple doubleQuote (c :: rest) then
        some (takeQuotes doubleQuote read.reverse (rest.drop 2))
      else readBasicLines fuel (c :: read) rest
    else if c = '\\' then
      if rest.head?.any isSpaceOrNewline then
        match skipLineEnd rest with
        | none => none
        | some rest => readBasicLines fuel read rest
      else
        match readEscape rest with
        | none => none
        | some (escaped, rest) => readBasicLines fuel (escaped :: read) rest
    else if isIllegalInLines c then none
    else readBasicLines fuel (c :: read) rest

def readLiteral : (read : Text) → Reader Text
  | _, [] => none
  | read, c :: rest =>
    if c = singleQuote then some (read.reverse, rest)
    else if isIllegal c then none
    else readLiteral (c :: read) rest

def readLiteralLines : (read : Text) → Reader Text
  | _, [] => none
  | read, c :: rest =>
    if startsTriple singleQuote (c :: rest) then
      some (takeQuotes singleQuote read.reverse (rest.drop 2))
    else if isIllegalInLines c then none
    else readLiteralLines (c :: read) rest

def skipFirstNewline : Text → Text
  | '\n' :: rest => rest
  | text => text

def readString (text : Text) : Option (Text × Text) :=
  match text with
  | c :: rest =>
    if c = doubleQuote then readBasic text.length [] rest
    else if c = singleQuote then readLiteral [] rest
    else none
  | [] => none

def readStringOrLines (text : Text) : Option (Text × Text) :=
  if startsTriple doubleQuote text then
    readBasicLines text.length [] (skipFirstNewline (text.drop 3))
  else if startsTriple singleQuote text then
    readLiteralLines [] (skipFirstNewline (text.drop 3))
  else readString text

end MarkdownReview.Toml
