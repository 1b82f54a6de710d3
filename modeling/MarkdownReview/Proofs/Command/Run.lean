import MarkdownReview.Command
/-!
What a run writes. Finding the settings and reading the document write nothing, and once both are
there nothing fails any more: the messages of the report follow one another.
-/

namespace MarkdownReview.Command

namespace Console

def followedBy (first second : Console) : Console :=
  ⟨first.output ++ second.output, first.errors ++ second.errors⟩

theorem followedBy_empty (console : Console) : console.followedBy {} = console := by
  rw [followedBy, String.append_empty, String.append_empty]

theorem followedBy_assoc (first second third : Console) :
    (first.followedBy second).followedBy third = first.followedBy (second.followedBy third) := by
  simp only [followedBy, String.append_assoc]

theorem write_eq (console : Console) (stream : Stream) (text : String) :
    console.write stream text = console.followedBy (({} : Console).write stream text) := by
  cases stream <;> simp [write, followedBy]

theorem write_append (stream : Stream) (first second : String) :
    ({} : Console).write stream (first ++ second) =
      (({} : Console).write stream first).followedBy (({} : Console).write stream second) := by
  cases stream <;> simp [write, followedBy]

end Console

/-- An action does not fail, and writes the same whatever is there already. -/
def Writes (action : Action Unit) (written : Console) : Prop :=
  ∀ console, action.run.run console = (.ok (), console.followedBy written)

theorem writes_nothing : Writes (pure ()) {} := by
  intro console
  rw [Console.followedBy_empty]
  rfl

theorem Writes.of_eq {action : Action Unit} {written other : Console}
    (writes : Writes action written) (same : written = other) : Writes action other :=
  same ▸ writes

theorem Writes.andThen {first second : Action Unit} {before after : Console}
    (writesFirst : Writes first before) (writesSecond : Writes second after) :
    Writes (do first; second) (before.followedBy after) := by
  intro console
  rw [ExceptT.run_bind, StateT.run_bind, writesFirst console]
  change second.run.run (console.followedBy before) = _
  rw [writesSecond, Console.followedBy_assoc]

theorem run_ofExcept_bind {α : Type} (result : Except Failure α) (rest : α → Action Unit)
    (console : Console) :
    (MonadExcept.ofExcept result >>= rest : Action Unit).run.run console =
      match result with
      | .error failure => (.error failure, console)
      | .ok found => (rest found).run.run console := by
  cases result <;> rfl

theorem writes_note (options : Options) (message : String) :
    Writes (note options message)
      (({} : Console).write .errors (if options.log then message ++ "\n" else "")) := by
  intro console
  unfold note
  cases options.log with
  | false => exact writes_nothing console
  | true =>
    rw [← Console.write_eq]
    rfl

namespace Toolkit

def text (toolkit : Toolkit) (stream : Stream) (messages : List String) : String :=
  String.join (messages.map (toolkit.shown stream))

def logged (options : Options) (settings : Settings) (document : Text) : String :=
  if options.log then
    outlineNote settings document ++ "\n" ++
      (if options.hints then hintNote settings document ++ "\n" else "") ++
      (if options.uses then useNote settings document ++ "\n" else "")
  else ""

def report (toolkit : Toolkit) (options : Options) (settings : Settings) (document : Text) :
    Console where
  output := toolkit.text .output (outline settings document) ++
    (if options.hints then toolkit.text .output (hintBlock settings document) else "") ++
    (if options.uses then toolkit.text .output (useBlock settings document) else "")
  errors := logged options settings document ++
    toolkit.text .errors (warnings settings document)

variable {toolkit : Toolkit} (documented : toolkit.Documented)
include documented

theorem writes_say (stream : Stream) (messages : List String) :
    Writes (toolkit.say stream messages)
      (({} : Console).write stream (toolkit.text stream messages)) := by
  induction messages with
  | nil =>
    have nothing : ({} : Console).write stream "" = {} := by
      cases stream <;> rfl
    rw [text, List.map_nil, String.join_nil, nothing]
    exact writes_nothing
  | cons message rest ih =>
    have first : Writes (modify (toolkit.echo stream message))
        (({} : Console).write stream (toolkit.shown stream message)) := by
      intro console
      rw [← Console.write_eq, ← documented.echo]
      rfl
    rw [text, List.map_cons, String.join_cons, Console.write_append]
    exact first.andThen ih

theorem writes_part (asked : Bool) (options : Options) (logged : String)
    (messages : List String) :
    Writes (toolkit.part asked options logged messages)
      (if asked then ⟨toolkit.text .output messages, if options.log then logged ++ "\n" else ""⟩
        else {}) := by
  cases asked with
  | false => exact writes_nothing
  | true =>
    have both := (writes_note options logged).andThen (writes_say documented .output messages)
    simp only [Console.followedBy, Console.write, String.empty_append, String.append_empty] at both
    exact both

theorem writes_present (options : Options) (settings : Settings) (document : Text) :
    Writes (toolkit.present options settings document)
      (toolkit.report options settings document) := by
  have outline := writes_part documented true options (outlineNote settings document)
    (outline settings document)
  have hints := writes_part documented options.hints options (hintNote settings document)
    (hintBlock settings document)
  have uses := writes_part documented options.uses options (useNote settings document)
    (useBlock settings document)
  have warned := writes_say documented .errors (warnings settings document)
  refine (outline.andThen (hints.andThen (uses.andThen warned))).of_eq ?_
  clear outline hints uses warned
  obtain ⟨hints, uses, unicodeAnchors, log⟩ := options
  cases hints <;> cases uses <;> cases log <;>
    simp [report, Toolkit.logged, Console.followedBy, Console.write, String.append_assoc]

end Toolkit

/-- What a run has to find before it writes anything: the settings, and then the document. -/
def prepared (tree : FileTree) (home : Place) (unicodeAnchors : Bool) (path : Text) :
    Except Failure (Settings × Text) := do
  let settings ← settingsFor tree ((Path.ofText path).place home).dropLast unicodeAnchors
  let document ← documentAt tree home path
  return (settings, document)

theorem Failure.exitCode_ne_zero (failure : Failure) : failure.exitCode ≠ 0 := by
  cases failure <;> simp [exitCode]

namespace Toolkit

section
variable {toolkit : Toolkit} (documented : toolkit.Documented) {tree : FileTree} {home : Place}
variable {arguments : List Text} {options : Options} {path : Text}
include documented

theorem run_examine (console : Console) :
    (toolkit.examine tree home options path).run.run console =
      match prepared tree home options.unicodeAnchors path with
      | .error failure => (.error failure, console)
      | .ok (settings, document) =>
        (.ok (), console.followedBy (toolkit.report options settings document)) := by
  rw [examine, run_ofExcept_bind, prepared]
  cases settingsFor tree ((Path.ofText path).place home).dropLast options.unicodeAnchors with
  | error failure => rfl
  | ok settings =>
    refine (run_ofExcept_bind (documentAt tree home path) _ console).trans ?_
    cases documentAt tree home path with
    | error failure => rfl
    | ok document => exact writes_present documented options settings document console

theorem ending_of_call (started : toolkit.start tree home arguments = .call options path) :
    toolkit.ending tree home arguments =
      match prepared tree home options.unicodeAnchors path with
      | .error failure => .failed failure {}
      | .ok (settings, document) =>
        let report := toolkit.report options settings document
        .finished ⟨0, report.output, report.errors⟩ := by
  rw [ending, started]
  dsimp only
  rw [run_examine documented]
  cases prepared tree home options.unicodeAnchors path with
  | error failure => rfl
  | ok found => simp [Console.followedBy]

theorem ending_cases (tree : FileTree) (home : Place) (arguments : List Text) :
    (∃ outcome, toolkit.ending tree home arguments = .finished outcome ∧ outcome.exitCode = 0) ∨
      ∃ failure, toolkit.ending tree home arguments = .failed failure {} := by
  cases started : toolkit.start tree home arguments with
  | finished outcome =>
    have ends : toolkit.ending tree home arguments = .finished outcome := by
      rw [ending, started]
    exact .inl ⟨outcome, ends, documented.start_finished started⟩
  | misuse message =>
    have ends : toolkit.ending tree home arguments = .failed (.misuse message) {} := by
      rw [ending, started]
    exact .inr ⟨.misuse message, ends⟩
  | call options path =>
    rw [ending_of_call documented started]
    cases prepared tree home options.unicodeAnchors path with
    | error failure => exact .inr ⟨failure, rfl⟩
    | ok found => exact .inl ⟨_, rfl, rfl⟩

/-- However a run fails, nothing has been written by then. -/
theorem console_of_failed {failure : Failure} {console : Console}
    (failed : toolkit.ending tree home arguments = .failed failure console) : console = {} := by
  rcases ending_cases documented tree home arguments with ⟨outcome, ends, -⟩ | ⟨other, ends⟩
  · rw [ends] at failed
    cases failed
  · rw [ends] at failed
    cases failed
    rfl

theorem run_of_failed {failure : Failure} {console : Console}
    (failed : toolkit.ending tree home arguments = .failed failure console) :
    toolkit.run tree home arguments =
      ⟨failure.exitCode, "", (toolkit.conclude failure {}).errors⟩ := by
  rw [run, failed, console_of_failed documented failed]
  refine (documented.conclude failure {}).trans ?_
  rw [String.empty_append]

theorem run_of_call (started : toolkit.start tree home arguments = .call options path) :
    toolkit.run tree home arguments =
      match prepared tree home options.unicodeAnchors path with
      | .error failure => ⟨failure.exitCode, "", (toolkit.conclude failure {}).errors⟩
      | .ok (settings, document) =>
        let report := toolkit.report options settings document
        ⟨0, report.output, report.errors⟩ := by
  have ending := ending_of_call documented started
  cases found : prepared tree home options.unicodeAnchors path with
  | error failure =>
    rw [found] at ending
    exact run_of_failed documented ending
  | ok both =>
    rw [found] at ending
    rw [run, ending]

theorem exitCode_of_finished {outcome : Outcome}
    (finished : toolkit.ending tree home arguments = .finished outcome) : outcome.exitCode = 0 := by
  rcases ending_cases documented tree home arguments with ⟨other, ends, zero⟩ | ⟨failure, ends⟩
  · rw [ends] at finished
    cases finished
    exact zero
  · rw [ends] at finished
    cases finished

end

/-- A run looks at a file tree in three ways only. -/
theorem run_congr {toolkit : Toolkit} (documented : toolkit.Documented) {first second : FileTree}
    {home : Place} (shape : FileTree.SameShape first second)
    (settings : ∀ directory, Discovery.find first directory = Discovery.find second directory)
    (documents : ∀ path, documentAt first home path = documentAt second home path)
    (arguments : List Text) :
    toolkit.run first home arguments = toolkit.run second home arguments := by
  have examined (options : Options) (path : Text) :
      toolkit.examine first home options path = toolkit.examine second home options path := by
    rw [examine, examine, settingsFor, settingsFor, settings, documents]
  unfold run ending
  rw [documented.start_congr home arguments shape]
  simp only [examined]

/-!
A plain toolkit, which keeps to what is promised: it takes switches, the separator and a path, and
writes every message as it is, on a line of its own.
-/

def readFrom? (options : Options) : List Text → Option (Options × Text)
  | [] => none
  | argument :: rest =>
    if argument = separator then rest.head?.map (options, ·)
    else (Switch.all.find? (·.text == argument)).bind fun switch =>
      readFrom? (Switch.set options switch) rest

def complaintOn? (path : Text) : Option FileTree.Node → Option String
  | none => some s!"File {String.ofList (Text.quoted path)} does not exist."
  | some .directory => some s!"File {String.ofList (Text.quoted path)} is a directory."
  | some (.unreadable _) => some s!"File {String.ofList (Text.quoted path)} is not readable."
  | some (.file _) => none

def plain : Toolkit where
  complaint? tree home path := complaintOn? path (tree.named? home path)
  start tree home arguments :=
    match readFrom? {} arguments with
    | none => .misuse "Missing argument 'FILEPATH'."
    | some (options, path) =>
      match complaintOn? path (tree.named? home path) with
      | some message => .misuse message
      | none => .call options path
  echo stream message console := console.write stream (message ++ "\n")
  conclude failure console :=
    ⟨failure.exitCode, console.output, console.errors ++ s!"Error: {failure.message}\n"⟩

theorem complaintOn?_emptied (path : Text) (node : Option FileTree.Node) :
    complaintOn? path (node.map FileTree.Node.emptied) = complaintOn? path node := by
  cases node with
  | none => rfl
  | some node => cases node <;> rfl

theorem readFrom?_called (options : Options) (switches : List Switch) (path : Text) :
    readFrom? options (called switches path) = some (switches.foldl Switch.set options, path) := by
  induction switches generalizing options with
  | nil => rfl
  | cons switch rest ih =>
    have known : switch.text ≠ separator ∧
        Switch.all.find? (·.text == switch.text) = some switch := by
      cases switch <;> decide
    have cut : called (switch :: rest) path = switch.text :: called rest path := rfl
    rw [cut, readFrom?, if_neg known.1, known.2]
    exact ih _

theorem documented_plain : plain.Documented where
  echo stream message console := by
    cases stream <;> simp [plain, shown, Console.write]
  conclude failure console := by simp [plain]
  start_called tree home switches path := by
    simp only [plain, readFrom?_called]
    rfl
  start_call {tree home arguments options path} started := by
    simp only [plain] at started ⊢
    split at started
    · cases started
    · split at started
      · cases started
      · next read _ free =>
        cases started
        exact free
  start_finished {tree home arguments outcome} finished := by
    simp only [plain] at finished
    split at finished
    · cases finished
    · split at finished <;> cases finished
  start_congr {first second} home arguments shape := by
    have same (path : Text) : complaintOn? path (first.named? home path) =
        complaintOn? path (second.named? home path) := by
      rw [← complaintOn?_emptied, shape.named?, complaintOn?_emptied]
    simp only [plain, same]

end Toolkit

end MarkdownReview.Command
