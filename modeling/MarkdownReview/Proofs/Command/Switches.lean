import MarkdownReview.Proofs.Command.Run
/-!
What the switches of the command change. Nothing but the switch for anchors has a part in whether
there is a report and what its blocks are: the others choose which of the blocks are shown.
-/

namespace MarkdownReview.Command

/-- What can be seen of a run, each block of the output apart. -/
structure Parts where
  exitCode : Nat
  outline : String
  hints : String
  uses : String
  errors : String

namespace Toolkit

def partsOfFailure (toolkit : Toolkit) (failure : Failure) : Parts :=
  ⟨failure.exitCode, "", "", "", (toolkit.conclude failure {}).errors⟩

def parts (toolkit : Toolkit) (tree : FileTree) (home : Place) (unicodeAnchors : Bool)
    (path : Text) : Parts :=
  match toolkit.complaint? tree home path with
  | some message => toolkit.partsOfFailure (.misuse message)
  | none =>
    match prepared tree home unicodeAnchors path with
    | .error failure => toolkit.partsOfFailure failure
    | .ok (settings, document) =>
      ⟨0, toolkit.text .output (outline settings document),
        toolkit.text .output (hintBlock settings document),
        toolkit.text .output (useBlock settings document),
        toolkit.text .errors (warnings settings document)⟩

end Toolkit

/-- Of all parts a run shows those that its options ask for, and its errors may have a log besides
if they ask for one. -/
structure Shows (parts : Parts) (options : Options) (outcome : Outcome) : Prop where
  exitCode : outcome.exitCode = parts.exitCode
  output : outcome.output = parts.outline ++ (if options.hints then parts.hints else "") ++
    if options.uses then parts.uses else ""
  errors : options.log = false → outcome.errors = parts.errors

theorem override_unicodeAnchors (profile : Profile) (unicodeAnchors : Bool) :
    profile.override
        [(Setting.unicodeAnchors.key.toList, if unicodeAnchors then .bool true else .null)] =
      .ok (if unicodeAnchors then profile.set .unicodeAnchors (.bool true) else profile) := by
  cases unicodeAnchors <;> rfl

theorem shows_of_failure (toolkit : Toolkit) (failure : Failure) (options : Options) :
    Shows (toolkit.partsOfFailure failure) options
      ⟨failure.exitCode, "", (toolkit.conclude failure {}).errors⟩ := by
  refine ⟨rfl, ?_, fun _ => rfl⟩
  change "" = "" ++ (if _ then "" else "") ++ (if _ then "" else "")
  rw [ite_self, ite_self]
  rfl

section
variable {toolkit : Toolkit} (documented : toolkit.Documented) {tree : FileTree} {home : Place}
variable {arguments : List Text} {options : Options} {path : Text}
include documented

theorem shows_of_call (started : toolkit.start tree home arguments = .call options path) :
    Shows (toolkit.parts tree home options.unicodeAnchors path) options
      (toolkit.run tree home arguments) := by
  rw [Toolkit.parts, documented.start_call started, Toolkit.run_of_call documented started]
  dsimp only
  cases prepared tree home options.unicodeAnchors path with
  | error failure => exact shows_of_failure toolkit failure options
  | ok both =>
    refine ⟨rfl, rfl, ?_⟩
    intro silent
    simp [Toolkit.report, Toolkit.logged, silent]

theorem shows_of_called (switches : List Switch) (path : Text) :
    Shows (toolkit.parts tree home (Options.ofSwitches switches).unicodeAnchors path)
      (.ofSwitches switches) (toolkit.run tree home (called switches path)) := by
  have started := documented.start_called tree home switches path
  cases complaint : toolkit.complaint? tree home path with
  | none =>
    rw [complaint] at started
    exact shows_of_call documented started
  | some message =>
    rw [complaint] at started
    have failed : toolkit.ending tree home (called switches path) =
        .failed (.misuse message) {} := by
      rw [Toolkit.ending, started]
    rw [Toolkit.parts, complaint, Toolkit.run_of_failed documented failed]
    exact shows_of_failure toolkit (.misuse message) _

end

/-- A run that fails, in whatever way, has an exit code of its own and writes no output, and so does
every run that does not exit with zero. Whatever the switches are, but for the one for anchors, the
same path gives the same exit code and the same blocks. The output is those of the blocks that are
asked for, and without a log the errors are the same too. However else the arguments are given, it
is the options they are read as that count. -/
theorem run_of_switches {toolkit : Toolkit} (documented : toolkit.Documented) (tree : FileTree)
    (home : Place) :
    (∀ arguments failure console, toolkit.ending tree home arguments = .failed failure console →
        (toolkit.run tree home arguments).exitCode ≠ 0) ∧
      (∀ arguments, (toolkit.run tree home arguments).exitCode ≠ 0 →
        (toolkit.run tree home arguments).output = "") ∧
      (∀ switches path,
        Shows (toolkit.parts tree home (Options.ofSwitches switches).unicodeAnchors path)
          (.ofSwitches switches) (toolkit.run tree home (called switches path))) ∧
      ∀ arguments options path, toolkit.start tree home arguments = .call options path →
        Shows (toolkit.parts tree home options.unicodeAnchors path) options
          (toolkit.run tree home arguments) := by
  refine ⟨?_, ?_, shows_of_called documented, fun _ _ _ => shows_of_call documented⟩
  · intro arguments failure console failed
    rw [Toolkit.run_of_failed documented failed]
    exact failure.exitCode_ne_zero
  · intro arguments unsuccessful
    cases ending : toolkit.ending tree home arguments with
    | failed failure console => rw [Toolkit.run_of_failed documented ending]
    | finished outcome =>
      rw [Toolkit.run, ending] at unsuccessful
      exact absurd (Toolkit.exitCode_of_finished documented ending) unsuccessful

/-- Two runs on one document, with nothing but the anchors alike in what they ask for. -/
theorem run_of_switches_twice :
    let path := "a.md".toList
    let tree : FileTree := ⟨[([path], .file (Text.Utf8.encode "# T\n\nlet x = 1\n".toList))]⟩
    let shown := Toolkit.plain.parts tree [] false path
    let least := Toolkit.plain.run tree [] (called [.locate, .hints, .noHints] path)
    let most := Toolkit.plain.run tree [] (called [.v, .locate] path)
    shown.exitCode = 0 ∧ least.exitCode = 0 ∧ most.exitCode = 0 ∧
      least.output = shown.outline ++ shown.uses ∧
      most.output = shown.outline ++ shown.hints ++ shown.uses ∧
      least.errors = shown.errors := by
  intro path tree shown least most
  have documented := Toolkit.documented_plain
  obtain ⟨-, -, each, -⟩ := run_of_switches documented tree []
  have shownLeast := each [.locate, .hints, .noHints] path
  have shownMost := each [.v, .locate] path
  have exits : shown.exitCode = 0 := rfl
  have outputLeast := shownLeast.output
  have withoutHints : (Options.ofSwitches [.locate, .hints, .noHints]).hints = false := rfl
  rw [withoutHints, if_neg Bool.false_ne_true, String.append_empty] at outputLeast
  exact ⟨exits, shownLeast.exitCode.trans exits, shownMost.exitCode.trans exits, outputLeast,
    shownMost.output, shownLeast.errors rfl⟩

end MarkdownReview.Command
