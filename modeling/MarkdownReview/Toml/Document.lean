import MarkdownReview.Toml.Number
/-!
Tables while a file is being read. A table is opened by its own header, by the header of a table
below it, or by a dotted key; the origin decides what may still be added to it. What an assignment
has put in place is never opened again.
-/

namespace MarkdownReview.Toml

inductive Origin
  /-- Only headers of tables below it have named the table so far. -/
  | implied
  /-- A dotted key of the section with this number has named it. -/
  | dotted (sectionNo : Nat)
  | declared
deriving DecidableEq, Repr

inductive Node
  | value (value : Value)
  | table (origin : Origin) (entries : List (Text × Node))
  /-- Tables under one repeated header; only the last can still grow. -/
  | tables (earlier : List Value) (last : List (Text × Node))

abbrev Entries := Table Text Node

mutual

def Node.toValue : Node → Value
  | .value value => value
  | .table _ entries => .table (valuesOf entries)
  | .tables earlier last => .array (earlier ++ [.table (valuesOf last)])

def valuesOf : List (Text × Node) → List (Text × Value)
  | [] => []
  | (key, node) :: rest => (key, node.toValue) :: valuesOf rest

end

/-- A table is closed to a header, or to a dotted key of the given section. -/
def Origin.isClosed (sectionNo : Nat) : Origin → Bool
  | implied => false
  | dotted opener => opener != sectionNo
  | declared => true

namespace Entries

/-- Changes the entries at the end of a path, opening tables on the way where there are none. -/
def change (f : Entries → Option Entries) : (path : List Text) → Entries → Option Entries
  | [], entries => f entries
  | key :: path, entries =>
    match Table.get? entries key with
    | none => (change f path []).map fun new => Table.insert key (.table .implied new) entries
    | some (.table origin inner) =>
      (change f path inner).map fun new => Table.insert key (.table origin new) entries
    | some (.tables earlier last) =>
      (change f path last).map fun new => Table.insert key (.tables earlier new) entries
    | some (.value _) => none

def assign (sectionNo : Nat) (value : Value) : (key : List Text) → Entries → Option Entries
  | [], _ => none
  | [key], entries =>
    if Table.has entries key then none else some (Table.insert key (.value value) entries)
  | key :: path, entries =>
    match Table.get? entries key with
    | none =>
      (assign sectionNo value path []).map fun new =>
        Table.insert key (.table (.dotted sectionNo) new) entries
    | some (.table origin inner) =>
      if origin.isClosed sectionNo then none
      else
        (assign sectionNo value path inner).map fun new =>
          Table.insert key (.table (.dotted sectionNo) new) entries
    | some _ => none

def declare (key : Text) (entries : Entries) : Option Entries :=
  match Table.get? entries key with
  | none => some (Table.insert key (.table .declared []) entries)
  | some (.table .implied inner) => some (Table.insert key (.table .declared inner) entries)
  | some _ => none

def declareNext (key : Text) (entries : Entries) : Option Entries :=
  match Table.get? entries key with
  | none => some (Table.insert key (.tables [] []) entries)
  | some (.tables earlier last) =>
    some (Table.insert key (.tables (earlier ++ [.table (valuesOf last)]) []) entries)
  | some _ => none

end Entries

/-!
TOML documents: keys, values, and the statements of a file. A malformed document has no value; it
is never told what is wrong with it.
-/

open Text (singleQuote doubleQuote)

def isBareKey (c : Char) : Bool := c.isAlphanum || c == '-' || c == '_'

def readKeyPart (text : Text) : Option (Text × Text) :=
  let bare := text.takeWhile isBareKey
  if bare.isEmpty then readString text else some (bare, text.dropWhile isBareKey)

def moreKey : (fuel : Nat) → Reader (List Text)
  | 0, _ => none
  | fuel + 1, text =>
    match skipSpace text with
    | '.' :: rest =>
      match readKeyPart (skipSpace rest) with
      | none => none
      | some (part, rest) =>
        (moreKey fuel rest).map fun (parts, rest) => (part :: parts, rest)
    | rest => some ([], rest)

def readKey (text : Text) : Option (List Text × Text) :=
  match readKeyPart text with
  | none => none
  | some (part, rest) =>
    (moreKey (rest.length + 1) rest).map fun (parts, rest) => (part :: parts, rest)

def readAssigned (text : Text) : Option (List Text × Text) :=
  match readKey text with
  | some (key, '=' :: rest) => some (key, skipSpace rest)
  | _ => none

def readPlain (text : Text) : Option (Value × Text) :=
  match text with
  | 't' :: 'r' :: 'u' :: 'e' :: rest => some (.bool true, rest)
  | 'f' :: 'a' :: 'l' :: 's' :: 'e' :: rest => some (.bool false, rest)
  | c :: _ =>
    if c = doubleQuote ∨ c = singleQuote then
      (readStringOrLines text).map fun (value, rest) => (.text value, rest)
    else
      match readMoment text with
      | .found moment rest => some (.moment moment, rest)
      | .noSuchDay => none
      | .other => readNumber text
  | [] => none

mutual

/-- Each value read inside another one takes two units of fuel, and at least one character. -/
def readValue : (fuel : Nat) → Reader Value
  | 0, _ => none
  | fuel + 1, text =>
    match text with
    | '[' :: rest =>
      (readItems fuel [] rest).map fun (items, rest) => (.array items, rest)
    | '\x7b' :: rest =>
      match skipSpace rest with
      | '\x7d' :: rest => some (.table [], rest)
      | rest => readPairs fuel [] rest
    | _ => readPlain text

/-- The items of an array up to its end; `read` holds those so far in reverse. -/
def readItems : (fuel : Nat) → (read : List Value) → Reader (List Value)
  | 0, _, _ => none
  | fuel + 1, read, text =>
    match skipLines (text.length + 1) text with
    | none => none
    | some (']' :: rest) => some (read.reverse, rest)
    | some ahead =>
      match readValue fuel ahead with
      | none => none
      | some (item, rest) =>
        match skipLines (rest.length + 1) rest with
        | some (']' :: rest) => some ((item :: read).reverse, rest)
        | some (',' :: rest) => readItems fuel (item :: read) rest
        | _ => none

def readPairs : (fuel : Nat) → (read : Entries) → Reader Value
  | 0, _, _ => none
  | fuel + 1, read, text =>
    match readAssigned text with
    | none => none
    | some (key, rest) =>
      match readValue fuel rest with
      | none => none
      | some (value, rest) =>
        match read.assign 0 value key with
        | none => none
        | some read =>
          match skipSpace rest with
          | '\x7d' :: rest => some (.table (valuesOf read), rest)
          | ',' :: rest => readPairs fuel read (skipSpace rest)
          | _ => none

end

def readAnyValue (text : Text) : Option (Value × Text) := readValue (2 * text.length + 1) text

structure Progress where
  entries : Entries := []
  header : List Text := []
  sectionNo : Nat := 0

namespace Progress

def assign (progress : Progress) (key : List Text) (value : Value) : Option Progress :=
  (Entries.change (Entries.assign progress.sectionNo value key) progress.header
    progress.entries).map fun entries => { progress with entries }

def start (progress : Progress) (opened : Text → Entries → Option Entries) (header : List Text) :
    Option Progress :=
  match header.getLast? with
  | none => none
  | some key =>
    (Entries.change (opened key) header.dropLast progress.entries).map fun entries =>
      ⟨entries, header, progress.sectionNo + 1⟩

end Progress

def readHeader (progress : Progress) : Text → Option (Progress × Text)
  | '[' :: rest => do
    let (header, rest) ← readKey (skipSpace rest)
    let progress ← progress.start Entries.declareNext header
    match rest with
    | ']' :: ']' :: rest => some (progress, rest)
    | _ => none
  | text => do
    let (header, rest) ← readKey (skipSpace text)
    let progress ← progress.start Entries.declare header
    match rest with
    | ']' :: rest => some (progress, rest)
    | _ => none

def readPair (progress : Progress) (text : Text) : Option (Progress × Text) := do
  let (key, rest) ← readAssigned text
  let (value, rest) ← readAnyValue rest
  let progress ← progress.assign key value
  some (progress, rest)

def readStatement (progress : Progress) (text : Text) : Option (Progress × Text) :=
  match text with
  | [] => some (progress, [])
  | '\n' :: _ | '#' :: _ => some (progress, text)
  | '[' :: rest => readHeader progress rest
  | _ => readPair progress text

def readLines : (fuel : Nat) → Progress → Text → Option Progress
  | 0, _, _ => none
  | fuel + 1, progress, text =>
    match readStatement progress (skipSpace text) with
    | none => none
    | some (progress, rest) =>
      match skipComment (skipSpace rest) with
      | some [] => some progress
      | some ('\n' :: rest) => readLines fuel progress rest
      | _ => none

theorem readLines_line {progress next : Progress} {text rest later : Text} (fuel : Nat)
    (statement : readStatement progress (skipSpace text) = some (next, rest))
    (lineEnd : skipComment (skipSpace rest) = some ('\n' :: later)) :
    readLines (fuel + 1) progress text = readLines fuel next later := by
  rw [readLines, statement]
  dsimp only
  rw [lineEnd]
  rfl

def read (document : Text) : Option (Table Text Value) :=
  let text := foldNewlines document
  (readLines (text.length + 1) {} text).map fun progress => valuesOf progress.entries

end MarkdownReview.Toml
