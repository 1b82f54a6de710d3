import Mathlib.Logic.Basic
import MarkdownReview.Proofs.Settings.Profile
import MarkdownReview.Proofs.Text.Utf8
import MarkdownReview.Settings.Discovery
/-!
Which file decides on the settings. The search passes over every candidate that holds nothing, and
what it makes of the first one that holds a value depends on no file that would be asked later. A
file that is no text is the one thing that stops it on the way.
-/

namespace MarkdownReview.Discovery

open Text

def fileOf (candidate : Place × Source) : Place := candidate.1 ++ [candidate.2.file]

def within (directory : Place) : List (Place × Source) :=
  [(directory, ⟨"pyproject.toml".toList, ["tool".toList, "mdscan".toList]⟩),
   (directory, ⟨".mdscan.toml".toList, ["mdscan".toList]⟩),
   (directory, ⟨".mdscan.toml".toList, ["tool".toList, "mdscan".toList]⟩)]

/-- The file of a candidate is a text, the text is a table, and the keys lead to a value in it. -/
def Holds (read : TableReader) (tree : FileTree) (candidate : Place × Source) (value : Value) :
    Prop :=
  ∃ text entries, tree.bytes? (fileOf candidate) = some (Utf8.encode text) ∧
    read text = some entries ∧ (Value.table entries).LeadsTo candidate.2.keys value

def IsGarbled (tree : FileTree) (place : Place) (fault : Utf8.Fault) : Prop :=
  ∃ bytes, tree.bytes? place = some bytes ∧ Utf8.decode bytes = .error fault

/-- What comes of the value that a candidate holds: the standard profile with the values of a table
of known settings, and a complaint about the file and the keys if it is anything else. -/
inductive Settles (candidate : Place × Source) : Value → Except Fault Profile → Prop
  | profile {entries : Table Text Value}
      (known : ∀ key ∈ entries.keys, Setting.IsKnown key) :
      Settles candidate (.table entries) (.ok (Profile.standard.overlaid entries))
  | fault {value : Value}
      (unfit : ∀ entries, value = .table entries →
        ∃ key ∈ Table.keys entries, ¬Setting.IsKnown key) :
      Settles candidate value
        (.error (.badProfile (.badTable (Path.ofPlace (fileOf candidate)) candidate.2.keys)))

variable {read : TableReader} {tree first second : FileTree} {candidate : Place × Source}

theorem held?_congr (same : first.bytes? (fileOf candidate) = second.bytes? (fileOf candidate)) :
    held? read first candidate.1 candidate.2 = held? read second candidate.1 candidate.2 := by
  unfold fileOf at same
  rw [held?, held?, same]

theorem bytes?_cases (tree : FileTree) (place : Place) :
    tree.bytes? place = none ∨ (∃ text, tree.bytes? place = some (Utf8.encode text)) ∨
      ∃ fault, IsGarbled tree place fault := by
  cases given : tree.bytes? place with
  | none => exact .inl rfl
  | some bytes =>
    cases decoded : Utf8.decode bytes with
    | error fault => exact .inr (.inr ⟨fault, bytes, given, decoded⟩)
    | ok text => exact .inr (.inl ⟨text, by rw [Utf8.decode_eq_ok_iff.mp decoded]⟩)

theorem not_isGarbled_of_text {place : Place} {text : Text}
    (given : tree.bytes? place = some (Utf8.encode text)) (fault : Utf8.Fault) :
    ¬IsGarbled tree place fault := by
  rintro ⟨bytes, same, garbled⟩
  rw [given] at same
  cases same
  rw [Utf8.decode_eq_ok_iff.mpr rfl] at garbled
  cases garbled

theorem held?_of_no_bytes (given : tree.bytes? (fileOf candidate) = none) :
    held? read tree candidate.1 candidate.2 = .ok none := by
  unfold fileOf at given
  rw [held?, given]

theorem held?_of_text {text : Text}
    (given : tree.bytes? (fileOf candidate) = some (Utf8.encode text)) :
    held? read tree candidate.1 candidate.2 =
      .ok ((read text).bind fun table => (Value.table table).at? candidate.2.keys) := by
  unfold fileOf at given
  rw [held?, given]
  simp only [Utf8.decode_eq_ok_iff.mpr rfl]

theorem held?_of_isGarbled {fault : Utf8.Fault}
    (garbled : IsGarbled tree (fileOf candidate) fault) :
    held? read tree candidate.1 candidate.2 = .error (.notText fault) := by
  obtain ⟨bytes, given, decoded⟩ := garbled
  unfold fileOf at given
  rw [held?, given]
  simp only [decoded]

theorem held?_eq_some_iff {value : Value} :
    held? read tree candidate.1 candidate.2 = .ok (some value) ↔
      Holds read tree candidate value := by
  constructor
  · intro held
    rcases bytes?_cases tree (fileOf candidate) with given | ⟨text, given⟩ | ⟨fault, garbled⟩
    · rw [held?_of_no_bytes given] at held
      cases held
    · rw [held?_of_text given] at held
      obtain ⟨entries, isRead, leads⟩ := Option.bind_eq_some_iff.mp (Except.ok.inj held)
      exact ⟨text, entries, given, isRead, Value.at?_eq_some_iff.mp leads⟩
    · rw [held?_of_isGarbled garbled] at held
      cases held
  · rintro ⟨text, entries, given, isRead, leads⟩
    rw [held?_of_text given, isRead, Option.bind_some, Value.at?_eq_some_iff.mpr leads]

theorem held?_eq_none_iff :
    held? read tree candidate.1 candidate.2 = .ok none ↔
      (∀ fault, ¬IsGarbled tree (fileOf candidate) fault) ∧
        ∀ value, ¬Holds read tree candidate value := by
  constructor
  · intro held
    constructor
    · intro fault garbled
      rw [held?_of_isGarbled garbled] at held
      cases held
    · intro value holds
      rw [held?_eq_some_iff.mpr holds] at held
      cases held
  · rintro ⟨readable, empty⟩
    rcases bytes?_cases tree (fileOf candidate) with given | ⟨text, given⟩ | ⟨fault, garbled⟩
    · exact held?_of_no_bytes given
    · rw [held?_of_text given, Except.ok.injEq, Option.eq_none_iff_forall_ne_some]
      intro value found
      have held := held?_eq_some_iff.mp ((held?_of_text given).trans (congrArg Except.ok found))
      exact empty value held
    · exact absurd garbled (readable fault)

theorem firstHeld_append {before : List (Place × Source)}
    (passed : ∀ earlier ∈ before, held? read tree earlier.1 earlier.2 = .ok none)
    (rest : List (Place × Source)) :
    firstHeld read tree (before ++ rest) = firstHeld read tree rest := by
  induction before with
  | nil => rfl
  | cons earlier before ih =>
    rw [List.cons_append, firstHeld, passed earlier List.mem_cons_self]
    exact ih fun other member => passed other (List.mem_cons_of_mem _ member)

theorem firstHeld_of_holds {before after : List (Place × Source)} {value : Value}
    (passed : ∀ earlier ∈ before, held? read tree earlier.1 earlier.2 = .ok none)
    (holds : Holds read tree candidate value) :
    firstHeld read tree (before ++ candidate :: after) =
      profileOf candidate.1 candidate.2 value := by
  rw [firstHeld_append passed, firstHeld, held?_eq_some_iff.mpr holds]

theorem firstHeld_of_isGarbled {before after : List (Place × Source)} {fault : Utf8.Fault}
    (passed : ∀ earlier ∈ before, held? read tree earlier.1 earlier.2 = .ok none)
    (garbled : IsGarbled tree (fileOf candidate) fault) :
    firstHeld read tree (before ++ candidate :: after) = .error (.notText fault) := by
  rw [firstHeld_append passed, firstHeld, held?_of_isGarbled garbled]

theorem firstHeld_of_passed {list : List (Place × Source)}
    (passed : ∀ earlier ∈ list, held? read tree earlier.1 earlier.2 = .ok none) :
    firstHeld read tree list = .ok Profile.standard := by
  rw [← List.append_nil list, firstHeld_append passed, firstHeld]

theorem firstHeld_congr {list : List (Place × Source)}
    (same : ∀ candidate ∈ list,
      held? read first candidate.1 candidate.2 = held? read second candidate.1 candidate.2) :
    firstHeld read first list = firstHeld read second list := by
  induction list with
  | nil => rfl
  | cons candidate rest ih =>
    rw [firstHeld, firstHeld, same candidate List.mem_cons_self,
      ih fun other member => same other (List.mem_cons_of_mem _ member)]

theorem settles_profileOf (candidate : Place × Source) (value : Value) :
    Settles candidate value (profileOf candidate.1 candidate.2 value) := by
  cases value with
  | table entries =>
    by_cases known : ∀ key ∈ Table.keys entries, Setting.IsKnown key
    · have overlaid := Profile.update_of_known known Profile.standard
      rw [profileOf, Profile.ofValue, Profile.ofTable, overlaid]
      exact .profile known
    · obtain ⟨key, member, unknown⟩ : ∃ key ∈ Table.keys entries, ¬Setting.IsKnown key := by
        simpa only [not_forall, exists_prop] using known
      obtain ⟨fault, refused⟩ := Profile.update_of_unknown member unknown Profile.standard
      rw [profileOf, Profile.ofValue, Profile.ofTable, refused]
      refine .fault ?_
      intro other same
      cases same
      exact ⟨key, member, unknown⟩
  | _ =>
    refine .fault ?_
    intro other same
    cases same

theorem upward_concat (above : Place) (name : Text) :
    (above ++ [name]).upward = (above ++ [name]) :: above.upward := by
  have length : (above ++ [name]).length = above.length + 1 := List.length_append
  rw [Place.upward, Place.upward, length, List.range_succ, List.reverse_append,
    List.reverse_singleton, List.singleton_append, List.map_cons, ← length, List.take_length]
  congr 1
  apply List.map_congr_left
  intro count member
  have below := List.mem_range.mp (List.mem_reverse.mp member)
  exact List.take_append_of_le_length (by omega)

theorem candidates_concat (above : Place) (name : Text) :
    candidates (above ++ [name]) = within (above ++ [name]) ++ candidates above := by
  rw [candidates, upward_concat, List.flatMap_cons]
  rfl

/-- Of any candidates, all are passed over or one is the first that is not. -/
theorem passed_or_first (read : TableReader) (tree : FileTree) (list : List (Place × Source)) :
    (∀ candidate ∈ list, held? read tree candidate.1 candidate.2 = .ok none) ∨
      ∃ before candidate after, list = before ++ candidate :: after ∧
        (∀ earlier ∈ before, held? read tree earlier.1 earlier.2 = .ok none) ∧
        ((∃ value, Holds read tree candidate value) ∨
          ∃ fault, IsGarbled tree (fileOf candidate) fault) := by
  induction list with
  | nil => exact .inl fun _ member => absurd member List.not_mem_nil
  | cons candidate rest ih =>
    by_cases passed : held? read tree candidate.1 candidate.2 = .ok none
    · rcases ih with later | ⟨before, found, after, rfl, ahead, stops⟩
      · exact .inl (List.forall_mem_cons.mpr ⟨passed, later⟩)
      · exact .inr ⟨candidate :: before, found, after, rfl,
          List.forall_mem_cons.mpr ⟨passed, ahead⟩, stops⟩
    · refine .inr ⟨[], candidate, rest, rfl, fun _ member => absurd member List.not_mem_nil, ?_⟩
      rw [held?_eq_none_iff, not_and_or] at passed
      simpa only [not_forall, not_not, or_comm] using passed

/-- From a directory up to the top, and within each directory in a fixed order, the first candidate
that holds a value decides on the profile. No file that only later candidates are read from makes a
difference, and where nothing is held the standard profile is found. -/
theorem findBy_settled (read : TableReader) (tree : FileTree) (directory : Place)
    (texts : ∀ candidate ∈ candidates directory, ∀ bytes,
      tree.bytes? (fileOf candidate) = some bytes → ∃ text, bytes = Utf8.encode text) :
    candidates [] = within [] ∧
      (∀ above name, candidates (above ++ [name]) = within (above ++ [name]) ++ candidates above) ∧
      (∀ before candidate after value,
        candidates directory = before ++ candidate :: after →
        (∀ earlier ∈ before, ∀ other, ¬Holds read tree earlier other) →
        Holds read tree candidate value →
        Settles candidate value (findBy read tree directory) ∧
          ∀ changed : FileTree,
            (∀ asked ∈ before ++ [candidate],
              changed.bytes? (fileOf asked) = tree.bytes? (fileOf asked)) →
            findBy read changed directory = findBy read tree directory) ∧
      ((∀ candidate ∈ candidates directory, ∀ value, ¬Holds read tree candidate value) →
        findBy read tree directory = .ok Profile.standard) := by
  have passed : ∀ candidate ∈ candidates directory,
      (∀ value, ¬Holds read tree candidate value) →
        held? read tree candidate.1 candidate.2 = .ok none := by
    intro candidate member empty
    refine held?_eq_none_iff.mpr ⟨?_, empty⟩
    rintro fault ⟨bytes, given, garbled⟩
    obtain ⟨text, rfl⟩ := texts candidate member bytes given
    exact not_isGarbled_of_text given fault ⟨_, given, garbled⟩
  refine ⟨rfl, candidates_concat, ?_, ?_⟩
  · intro before candidate after value split empty holds
    have ahead : ∀ earlier ∈ before, held? read tree earlier.1 earlier.2 = .ok none := by
      intro earlier member
      apply passed earlier _ (empty earlier member)
      rw [split]
      exact List.mem_append_left _ member
    have decided : findBy read tree directory = profileOf candidate.1 candidate.2 value := by
      rw [findBy, split]
      exact firstHeld_of_holds ahead holds
    rw [decided]
    refine ⟨settles_profileOf candidate value, ?_⟩
    intro changed same
    have unchanged : ∀ asked ∈ before ++ [candidate],
        held? read changed asked.1 asked.2 = held? read tree asked.1 asked.2 :=
      fun asked member => held?_congr (same asked member)
    rw [findBy, split]
    apply firstHeld_of_holds
    · intro earlier member
      rw [unchanged earlier (List.mem_append_left _ member)]
      exact ahead earlier member
    · rw [← held?_eq_some_iff,
        unchanged candidate (List.mem_append_right _ (List.mem_singleton_self _))]
      exact held?_eq_some_iff.mpr holds
  · intro empty
    exact firstHeld_of_passed fun candidate member =>
      passed candidate member (empty candidate member)

theorem read_open_header : Toml.read "[mdscan\n".toList = none :=
  Option.isNone_iff_eq_none.mp (by decide +kernel)

section
open Toml

theorem read_score :
    Toml.read "[tool.mdscan]\nmin_code_score = 3\n".toList =
      some [(toolTable, .table [(ownTable, .table [("min_code_score".toList, .int 3)])])] := by
  -- Line by line, as there is no procedure that tells whether two values are the same.
  let headed (entries : Entries) : Progress :=
    ⟨[(toolTable, .table .implied [(ownTable, .table .declared entries)])],
      [toolTable, ownTable], 1⟩
  let filled := headed [("min_code_score".toList, .value (.int 3))]
  have header : readStatement {} "[tool.mdscan]\nmin_code_score = 3\n".toList =
      some (headed [], "\nmin_code_score = 3\n".toList) := rfl
  have named : readAssigned "min_code_score = 3\n".toList =
      some (["min_code_score".toList], ['3', '\n']) := rfl
  have number : readAnyValue ['3', '\n'] = some (.int 3, ['\n']) := rfl
  have assigned : (headed []).assign ["min_code_score".toList] (.int 3) = some filled := rfl
  have pair : readStatement (headed []) "min_code_score = 3\n".toList = some (filled, ['\n']) := by
    change readPair (headed []) "min_code_score = 3\n".toList = some (filled, ['\n'])
    simp only [readPair, named, number, assigned, Option.bind_eq_bind, Option.bind_some]
  have first : readLines 34 {} "[tool.mdscan]\nmin_code_score = 3\n".toList =
      readLines 33 (headed []) "min_code_score = 3\n".toList := readLines_line 33 header rfl
  have second : readLines 33 (headed []) "min_code_score = 3\n".toList =
      readLines 32 filled [] := readLines_line 32 pair rfl
  have folded : foldNewlines "[tool.mdscan]\nmin_code_score = 3\n".toList =
      "[tool.mdscan]\nmin_code_score = 3\n".toList := rfl
  have size : "[tool.mdscan]\nmin_code_score = 3\n".toList.length = 33 := rfl
  unfold Toml.read
  dsimp only
  rw [folded, size, first, second]
  rfl

end

/-- A directory in the place of a file and a file that is no table are passed over, and the file of
the top directory decides ahead of the one that stands beside it. -/
theorem findBy_settled_above :
    let docs := "docs".toList
    let tree : FileTree := ⟨
      [([docs, projectFile], .directory),
       ([docs, ownFile], .file (Utf8.encode "[mdscan\n".toList)),
       ([projectFile], .file (Utf8.encode "[tool.mdscan]\nmin_code_score = 3\n".toList)),
       ([ownFile], .file (Utf8.encode "[mdscan]\nmin_code_score = 4\n".toList))]⟩
    let top : Place × Source := ([], ⟨projectFile, [toolTable, ownTable]⟩)
    let value := Value.table [("min_code_score".toList, .int 3)]
    (∀ candidate ∈ candidates [docs], ∀ bytes,
        tree.bytes? (fileOf candidate) = some bytes → ∃ text, bytes = Utf8.encode text) ∧
      candidates [docs] = within [docs] ++ top :: (within []).tail ∧
      (∀ earlier ∈ within [docs], ∀ other, ¬Holds Toml.read tree earlier other) ∧
      Holds Toml.read tree top value ∧
      Settles top value (findBy Toml.read tree [docs]) := by
  intro docs tree top value
  have texts : ∀ candidate ∈ candidates [docs], ∀ bytes,
      tree.bytes? (fileOf candidate) = some bytes → ∃ text, bytes = Utf8.encode text := by
    intro candidate _ bytes given
    have stands := Table.mem_of_get? (FileTree.bytes?_eq_some_iff.mp given)
    simp only [tree, List.mem_cons, List.not_mem_nil, or_false, Prod.mk.injEq,
      FileTree.Node.file.injEq, reduceCtorEq, and_false, false_or] at stands
    rcases stands with ⟨-, same⟩ | ⟨-, same⟩ | ⟨-, same⟩
    all_goals exact ⟨_, same⟩
  have empty : ∀ earlier ∈ within [docs], ∀ other, ¬Holds Toml.read tree earlier other := by
    intro earlier member
    refine (held?_eq_none_iff.mp ?_).2
    rcases List.mem_cons.mp member with rfl | own
    · exact held?_of_no_bytes rfl
    · have given : tree.bytes? (fileOf earlier) = some (Utf8.encode "[mdscan\n".toList) := by
        simp only [List.mem_cons, List.not_mem_nil, or_false] at own
        rcases own with rfl | rfl
        all_goals rfl
      rw [held?_of_text given, read_open_header]
      rfl
  have holds : Holds Toml.read tree top value :=
    ⟨_, _, rfl, read_score, .within rfl (.within rfl (.here value))⟩
  obtain ⟨-, -, decided, -⟩ := findBy_settled Toml.read tree [docs] texts
  exact ⟨texts, rfl, empty, holds, (decided _ top _ value rfl empty holds).1⟩

theorem findBy_cases (read : TableReader) (tree : FileTree) (directory : Place) :
    (∃ profile, findBy read tree directory = .ok profile) ∨
      (∃ candidate ∈ candidates directory, findBy read tree directory =
        .error (.badProfile (.badTable (Path.ofPlace (fileOf candidate)) candidate.2.keys))) ∨
      ∃ fault, findBy read tree directory = .error (.notText fault) := by
  unfold findBy
  rcases passed_or_first read tree (candidates directory) with
    passed | ⟨before, candidate, after, split, passed, ⟨value, holds⟩ | ⟨fault, garbled⟩⟩
  · exact .inl ⟨_, firstHeld_of_passed passed⟩
  · have settled := settles_profileOf candidate value
    have member : candidate ∈ candidates directory := by
      rw [split]
      exact List.mem_append_right _ List.mem_cons_self
    rw [← firstHeld_of_holds passed holds, ← split] at settled
    generalize firstHeld read tree (candidates directory) = outcome at settled ⊢
    cases settled with
    | profile known => exact .inl ⟨_, rfl⟩
    | fault unfit => exact .inr (.inl ⟨candidate, member, rfl⟩)
  · refine .inr (.inr ⟨fault, ?_⟩)
    rw [split]
    exact firstHeld_of_isGarbled passed garbled

theorem findBy_eq_notText_iff {directory : Place} {fault : Utf8.Fault} :
    findBy read tree directory = .error (.notText fault) ↔
      ∃ before candidate after, candidates directory = before ++ candidate :: after ∧
        (∀ earlier ∈ before, (∀ other, ¬IsGarbled tree (fileOf earlier) other) ∧
          ∀ value, ¬Holds read tree earlier value) ∧
        IsGarbled tree (fileOf candidate) fault := by
  constructor
  · intro stopped
    rcases passed_or_first read tree (candidates directory) with
      passed | ⟨before, candidate, after, split, passed, ⟨value, holds⟩ | ⟨other, garbled⟩⟩
    · rw [findBy, firstHeld_of_passed passed] at stopped
      cases stopped
    · have settled := settles_profileOf candidate value
      rw [findBy, split, firstHeld_of_holds passed holds] at stopped
      rw [stopped] at settled
      cases settled
    · rw [findBy, split, firstHeld_of_isGarbled passed garbled] at stopped
      cases stopped
      exact ⟨before, candidate, after, split,
        fun earlier member => held?_eq_none_iff.mp (passed earlier member), garbled⟩
  · rintro ⟨before, candidate, after, split, passed, garbled⟩
    rw [findBy, split]
    exact firstHeld_of_isGarbled
      (fun earlier member => held?_eq_none_iff.mpr (passed earlier member)) garbled

/-- No file that can be read stands at the place, or its text is no table. -/
def IsUnusable (read : TableReader) (tree : FileTree) (place : Place) : Prop :=
  tree.bytes? place = none ∨
    ∃ text, tree.bytes? place = some (Utf8.encode text) ∧ read text = none

theorem held?_of_isUnusable (unusable : IsUnusable read tree (fileOf candidate)) :
    held? read tree candidate.1 candidate.2 = .ok none := by
  rcases unusable with given | ⟨text, given, noTable⟩
  · exact held?_of_no_bytes given
  · rw [held?_of_text given, noTable, Option.bind_none]

theorem findBy_without {place : Place} (unusable : IsUnusable read tree place) (directory : Place) :
    findBy read (tree.without place) directory = findBy read tree directory := by
  apply firstHeld_congr
  intro candidate _
  by_cases same : fileOf candidate = place
  · subst same
    rw [held?_of_isUnusable unusable, held?_of_no_bytes (tree.bytes?_without_self _)]
  · exact held?_congr (tree.bytes?_without_of_ne same)

/-- The search ends with a profile, with a complaint about one of the tables, or at the first file
that counts and is garbled. Whatever else cannot be used might as well not be there. -/
theorem findBy_outcome (read : TableReader) (tree : FileTree) (directory : Place) :
    ((∃ profile, findBy read tree directory = .ok profile) ∨
      (∃ candidate ∈ candidates directory, findBy read tree directory =
        .error (.badProfile (.badTable (Path.ofPlace (fileOf candidate)) candidate.2.keys))) ∨
      ∃ fault, findBy read tree directory = .error (.notText fault)) ∧
    (∀ fault, findBy read tree directory = .error (.notText fault) ↔
      ∃ before candidate after, candidates directory = before ++ candidate :: after ∧
        (∀ earlier ∈ before, (∀ other, ¬IsGarbled tree (fileOf earlier) other) ∧
          ∀ value, ¬Holds read tree earlier value) ∧
        IsGarbled tree (fileOf candidate) fault) ∧
    ∀ place, IsUnusable read tree place →
      findBy read (tree.without place) directory = findBy read tree directory :=
  ⟨findBy_cases read tree directory, fun _ => findBy_eq_notText_iff,
    fun _ unusable => findBy_without unusable directory⟩

/-- A file that is no table is passed over, and the garbled one next to it stops the search. -/
theorem findBy_outcome_at_garbled :
    let tree : FileTree := ⟨
      [([projectFile], .file (Utf8.encode "[mdscan\n".toList)), ([ownFile], .file [0xFF])]⟩
    let fault : Utf8.Fault := ⟨0, 1, 0xFF, .invalidStart⟩
    IsUnusable Toml.read tree [projectFile] ∧
      IsGarbled tree [ownFile] fault ∧
      findBy Toml.read (tree.without [projectFile]) [] = findBy Toml.read tree [] ∧
      findBy Toml.read tree [] = .error (.notText fault) := by
  intro tree fault
  have unusable : IsUnusable Toml.read tree [projectFile] := .inr ⟨_, rfl, read_open_header⟩
  have garbled : IsGarbled tree [ownFile] fault := ⟨_, rfl, rfl⟩
  obtain ⟨-, stops, skips⟩ := findBy_outcome Toml.read tree []
  refine ⟨unusable, garbled, skips _ unusable, (stops fault).mpr ?_⟩
  refine ⟨[([], ⟨projectFile, [toolTable, ownTable]⟩)], _, _, rfl, ?_, garbled⟩
  intro earlier member
  rw [List.mem_singleton.mp member]
  exact held?_eq_none_iff.mp (held?_of_isUnusable unusable)

/-- A garbled file is not passed over, though without it the standard profile would be found. -/
theorem find_garbled_project_file :
    let tree : FileTree := ⟨[([projectFile], .file [0xFF])]⟩
    find tree [] = .error (.notText ⟨0, 1, 0xFF, .invalidStart⟩) ∧
      find (tree.without [projectFile]) [] = .ok Profile.standard :=
  ⟨rfl, rfl⟩

end MarkdownReview.Discovery
