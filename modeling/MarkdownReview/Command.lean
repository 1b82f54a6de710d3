import MarkdownReview.Heading.Contents
import MarkdownReview.Review
import MarkdownReview.Settings.Discovery
/-!
The command, which reports on one document of a file tree. It finds the settings, reads the document
and then writes its report line by line. Reading the arguments, writing a line and showing a failure
is the work of a toolkit, of which no more is known than its documentation says.
-/

namespace MarkdownReview.Command

structure Options where
  hints : Bool := true
  uses : Bool := false
  unicodeAnchors : Bool := false
  log : Bool := false
deriving DecidableEq, Repr

inductive Switch
  | hints
  | noHints
  | locate
  | preserveUnicode
  | v
  | verbose
deriving DecidableEq, Repr

namespace Switch

def all : List Switch := [hints, noHints, locate, preserveUnicode, v, verbose]

def text : Switch → Text
  | hints => "--hints".toList
  | noHints => "--no-hints".toList
  | locate => "--locate".toList
  | preserveUnicode => "--preserve-unicode".toList
  | v => "-v".toList
  | verbose => "--verbose".toList

def set (options : Options) : Switch → Options
  | hints => { options with hints := true }
  | noHints => { options with hints := false }
  | locate => { options with uses := true }
  | preserveUnicode => { options with unicodeAnchors := true }
  | v | verbose => { options with log := true }

end Switch

/-- Of two switches that set the same option the later one counts. -/
def Options.ofSwitches (switches : List Switch) : Options := switches.foldl Switch.set {}

/-- Nothing after it is a switch, whatever it looks like. -/
def separator : Text := "--".toList

def called (switches : List Switch) (path : Text) : List Text :=
  switches.map Switch.text ++ [separator, path]

inductive Stream
  | output
  | errors
deriving DecidableEq, Repr

structure Console where
  output : String := ""
  errors : String := ""
deriving DecidableEq, Repr

def Console.write (console : Console) : Stream → String → Console
  | .output, text => { console with output := console.output ++ text }
  | .errors, text => { console with errors := console.errors ++ text }

inductive Failure
  | misuse (message : String)
  | badProfile (fault : ProfileFault)
  | settingsNotText (fault : Text.Utf8.Fault)
  | documentUnreadable (complaint : Text)
  | documentNotText (path : Text) (fault : Text.Utf8.Fault)
deriving DecidableEq, Repr

def Failure.message : Failure → String
  | misuse message => message
  | badProfile fault => fault.message
  | settingsNotText fault => fault.message
  | documentUnreadable complaint => String.ofList complaint
  | documentNotText path fault =>
    s!"Invalid UTF-8 sequence in {String.ofList (Path.ofText path).text}: {fault.message}"

structure Outcome where
  exitCode : Nat
  output : String
  errors : String
deriving DecidableEq, Repr

/-!
The toolkit, as a parameter of the command, and what its documentation promises.
-/

/-- What comes of the arguments before the command itself has done anything. A run in which the
toolkit answers by itself, such as one that asks for help, is finished. -/
inductive Start
  | call (options : Options) (path : Text)
  | misuse (message : String)
  | finished (outcome : Outcome)
deriving DecidableEq, Repr

structure Toolkit where
  /-- What is said against the path of a document that is not a file that can be read. -/
  complaint? : FileTree → Place → Text → Option String
  start : FileTree → Place → List Text → Start
  echo : Stream → String → Console → Console
  /-- Shows a failure after what has been written, and ends the run. -/
  conclude : Failure → Console → Outcome

def Toolkit.shown (toolkit : Toolkit) (stream : Stream) (message : String) : String :=
  let console := toolkit.echo stream message {}
  match stream with
  | .output => console.output
  | .errors => console.errors

/-- A call that is wrong or asks for what cannot be had ends with two; whatever else goes wrong,
foreseen or not, ends with one. -/
def Failure.exitCode : Failure → Nat
  | misuse _ | badProfile _ => 2
  | settingsNotText _ | documentUnreadable _ | documentNotText _ _ => 1

structure Toolkit.Documented (toolkit : Toolkit) : Prop where
  /-- A message is written on the stream that it is for, after what is there, and writing does not
  fail. Other marks than those of the message, or fewer, may stand for it, but they depend on
  nothing else. -/
  echo : ∀ stream message console,
    toolkit.echo stream message console = console.write stream (toolkit.shown stream message)
  /-- Failures are shown on the stream for errors, and end with the exit code of their kind. -/
  conclude : ∀ failure console,
    toolkit.conclude failure console =
      ⟨failure.exitCode, console.output,
        console.errors ++ (toolkit.conclude failure {}).errors⟩
  /-- Switches are read in their order, and have no part in what is said against the path. -/
  start_called : ∀ tree home switches path,
    toolkit.start tree home (called switches path) =
      match toolkit.complaint? tree home path with
      | some message => .misuse message
      | none => .call (.ofSwitches switches) path
  /-- However the arguments are given, a path is checked before the command gets it. -/
  start_call : ∀ {tree home arguments options path},
    toolkit.start tree home arguments = .call options path →
      toolkit.complaint? tree home path = none
  /-- What the toolkit answers by itself is no failure. -/
  start_finished : ∀ {tree home arguments outcome},
    toolkit.start tree home arguments = .finished outcome → outcome.exitCode = 0
  /-- A path is checked for what it names, and no file is opened for that. -/
  start_congr : ∀ {first second} home arguments, FileTree.SameShape first second →
    toolkit.start first home arguments = toolkit.start second home arguments

/-!
The report, as the messages that are written one after the other.
-/

def headingLine (heading : Heading) : String :=
  let indent := String.ofList (List.replicate (2 * (heading.level - 1)) ' ')
  s!"{indent}- {String.ofList heading.display} (#{String.ofList heading.anchor})"

def headings (settings : Settings) (document : Text) : List Heading :=
  (Contents.ofDocument settings.unicodeAnchors document).headings

def outline (settings : Settings) (document : Text) : List String :=
  let headings := headings settings document
  s!"Outline ({headings.length} headings, {wordCount document} words)" :: headings.map headingLine

def titled (title : String) (lines : List String) : List String :=
  if lines.isEmpty then [] else s!"\n{title} ({lines.length})" :: lines

def hintBlock (settings : Settings) (document : Text) : List String :=
  titled "Code hints" ((Hint.ofDocument settings document).map Hint.message)

def useLine (use : CodeUse) : String :=
  s!"{use.start}-{use.stop} line {use.line}: \"{String.ofList use.text}\" -> wrap in ```"

def useBlock (settings : Settings) (document : Text) : List String :=
  titled "Located code" ((CodeUse.ofDocument settings document).map useLine)

def warnings (settings : Settings) (document : Text) : List String :=
  (QuickCheck.findings settings document).map fun finding => s!"warning: {finding.message}"

def outlineNote (settings : Settings) (document : Text) : String :=
  let lines := Document.lines document
  let counted := s!"{(headings settings document).length} headings from {lines.length} lines"
  s!"mdscan.outline - DEBUG - Extracted {counted}"

def hintNote (settings : Settings) (document : Text) : String :=
  s!"mdscan.detector - DEBUG - Code hints: {(Hint.ofDocument settings document).length}"

def useNote (settings : Settings) (document : Text) : String :=
  let uses := CodeUse.ofDocument settings document
  s!"mdscan.detector - DEBUG - Located code matches: {uses.length}"

/-!
Runs. What has been written by the time of a failure stays written.
-/

inductive Ending
  | finished (outcome : Outcome)
  | failed (failure : Failure) (console : Console)

abbrev Action := ExceptT Failure (StateM Console)

def settingsFor (tree : FileTree) (directory : Place) (unicodeAnchors : Bool) :
    Except Failure Settings :=
  match Discovery.find tree directory with
  | .error (.badProfile fault) => .error (.badProfile fault)
  | .error (.notText fault) => .error (.settingsNotText fault)
  | .ok profile =>
    let asked := if unicodeAnchors then profile.set .unicodeAnchors (.bool true) else profile
    match asked.check with
    | .error fault => .error (.badProfile fault)
    | .ok checked => .ok checked.settings

def documentAt (tree : FileTree) (home : Place) (path : Text) : Except Failure Text :=
  let place := (Path.ofText path).place home
  match tree.node? place with
  | some (.unreadable complaint) => .error (.documentUnreadable complaint)
  | _ =>
    match Text.Utf8.decode ((tree.bytes? place).getD []) with
    | .error fault => .error (.documentNotText path fault)
    | .ok text => .ok (Text.unifyNewlines text)

def note (options : Options) (message : String) : Action Unit :=
  if options.log then modify (·.write .errors (message ++ "\n")) else pure ()

namespace Toolkit

variable (toolkit : Toolkit)

def say (stream : Stream) (messages : List String) : Action Unit :=
  messages.forM fun message => modify (toolkit.echo stream message)

/-- A part of the report, with what its analysis logs, unless nobody asked for it. -/
def part (asked : Bool) (options : Options) (logged : String) (messages : List String) :
    Action Unit :=
  if asked then do
    note options logged
    toolkit.say .output messages
  else pure ()

def present (options : Options) (settings : Settings) (document : Text) : Action Unit := do
  toolkit.part true options (outlineNote settings document) (outline settings document)
  toolkit.part options.hints options (hintNote settings document) (hintBlock settings document)
  toolkit.part options.uses options (useNote settings document) (useBlock settings document)
  toolkit.say .errors (warnings settings document)

def examine (tree : FileTree) (home : Place) (options : Options) (path : Text) : Action Unit := do
  let settings ← MonadExcept.ofExcept
    (settingsFor tree ((Path.ofText path).place home).dropLast options.unicodeAnchors)
  let document ← MonadExcept.ofExcept (documentAt tree home path)
  toolkit.present options settings document

def ending (tree : FileTree) (home : Place) (arguments : List Text) : Ending :=
  match toolkit.start tree home arguments with
  | .finished outcome => .finished outcome
  | .misuse message => .failed (.misuse message) {}
  | .call options path =>
    match (toolkit.examine tree home options path).run.run {} with
    | (.error failure, console) => .failed failure console
    | (.ok (), console) => .finished ⟨0, console.output, console.errors⟩

def run (tree : FileTree) (home : Place) (arguments : List Text) : Outcome :=
  match toolkit.ending tree home arguments with
  | .finished outcome => outcome
  | .failed failure console => toolkit.conclude failure console

end Toolkit
end MarkdownReview.Command
