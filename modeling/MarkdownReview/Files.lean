import MarkdownReview.Table
import MarkdownReview.Text.Basic
/-!
Paths as they are written, and the places in a file tree that they lead to.
-/

namespace MarkdownReview

def slash : Char := '/'

def here : Text := ['.']

def upward : Text := ['.', '.']

def splitPath (path : Text) : List Text := path.splitOn slash

def leadsNowhere (part : Text) : Bool := part.isEmpty || part == here

abbrev Place := List Text

def Place.step (place : Place) (part : Text) : Place :=
  if part = upward then place.dropLast else place ++ [part]

def Place.upward (place : Place) : List Place :=
  (List.range (place.length + 1)).reverse.map place.take

/-- A path without the parts that lead nowhere. -/
structure Path where
  /-- One slash at the start, or exactly two, are kept; more count as one. -/
  root : Text
  parts : List Text
deriving DecidableEq, Repr

namespace Path

def ofText (text : Text) : Path :=
  let slashes := (text.takeWhile (· == slash)).length
  let root := if slashes = 0 then [] else if slashes = 2 then [slash, slash] else [slash]
  ⟨root, (splitPath text).filter fun part => !leadsNowhere part⟩

def ofPlace (place : Place) : Path := ⟨[slash], place⟩

def text (path : Path) : Text :=
  let shown := path.root ++ List.intercalate [slash] path.parts
  if shown.isEmpty then here else shown

/-- Where the path leads from a working directory, whatever stands on the way. -/
def place (path : Path) (home : Place) : Place :=
  path.parts.foldl Place.step (if path.root.isEmpty then home else [])

end Path

/-!
File trees. A directory is there if it is given, or if anything stands below it.
-/

inductive FileTree.Node
  | file (bytes : List UInt8)
  /-- A file that is there but fails to be read, with the complaint of the system. -/
  | unreadable (complaint : Text)
  | directory
deriving DecidableEq

/-- The files and directories that are given, each with its place. Whether there is a file at a
place can always be told: no directory refuses to be searched and no name is too long, so there is
no outcome for a question that fails, only for a file that is there and fails to be read. -/
structure FileTree where
  entries : Table Place FileTree.Node

namespace FileTree

def node? (tree : FileTree) (place : Place) : Option Node :=
  match tree.entries.get? place with
  | some node => some node
  | none =>
    if place.isEmpty || tree.entries.keys.any (place.isPrefixOf ·) then some .directory else none

def bytes? (tree : FileTree) (place : Place) : Option (List UInt8) :=
  match tree.node? place with
  | some (.file bytes) => some bytes
  | _ => none

def isDirectory (tree : FileTree) (place : Place) : Bool := tree.node? place == some .directory

/-- Walks a path part by part. Whatever is followed by a part has to be a directory. -/
def walk (tree : FileTree) : Place → List Text → Option Node
  | place, [] => tree.node? place
  | place, part :: rest =>
    if tree.isDirectory place then
      walk tree (if leadsNowhere part then place else place.step part) rest
    else none

def named? (tree : FileTree) (home : Place) (path : Text) : Option Node :=
  if path.isEmpty then none
  else tree.walk (if path.head? == some slash then [] else home) (splitPath path)

end FileTree
end MarkdownReview

/-!
File trees that differ in a file. What a path names depends on the bytes of no file, only on where
there are files and directories.
-/

namespace MarkdownReview.FileTree

def write (tree : FileTree) (place : Place) (bytes : List UInt8) : FileTree :=
  ⟨tree.entries.insert place (.file bytes)⟩

def without (tree : FileTree) (place : Place) : FileTree := ⟨tree.entries.without place⟩

theorem bytes?_eq_some_iff {tree : FileTree} {place : Place} {bytes : List UInt8} :
    tree.bytes? place = some bytes ↔ tree.entries.get? place = some (.file bytes) := by
  unfold bytes? node?
  cases tree.entries.get? place with
  | none =>
    dsimp only
    split
    · next given =>
      split at given <;> cases given
    · simp
  | some node => cases node <;> simp

theorem bytes?_congr {first second : FileTree} {place : Place}
    (same : first.entries.get? place = second.entries.get? place) :
    first.bytes? place = second.bytes? place := by
  apply Option.ext
  intro bytes
  rw [bytes?_eq_some_iff, bytes?_eq_some_iff, same]

theorem bytes?_without_self (tree : FileTree) (place : Place) :
    (tree.without place).bytes? place = none := by
  apply Option.eq_none_iff_forall_ne_some.mpr
  intro bytes given
  rw [bytes?_eq_some_iff, without, Table.get?_without_self] at given
  cases given

theorem bytes?_without_of_ne (tree : FileTree) {place other : Place} (different : other ≠ place) :
    (tree.without place).bytes? other = tree.bytes? other :=
  bytes?_congr (Table.get?_without_of_ne tree.entries different)

theorem node?_write_self (tree : FileTree) (place : Place) (bytes : List UInt8) :
    (tree.write place bytes).node? place = some (.file bytes) := by
  rw [node?, write, Table.get?_insert_self]

theorem node?_congr {first second : FileTree} {place : Place}
    (given : first.entries.get? place = second.entries.get? place)
    (keys : first.entries.keys = second.entries.keys) : first.node? place = second.node? place := by
  simp only [node?, given, keys]

theorem node?_write_of_ne (tree : FileTree) {place other : Place} (different : other ≠ place)
    (first second : List UInt8) :
    (tree.write place first).node? other = (tree.write place second).node? other := by
  apply node?_congr
  · rw [write, write, Table.get?_insert_of_ne _ _ different, Table.get?_insert_of_ne _ _ different]
  · exact Table.keys_insert_congr place _ _ tree.entries

def Node.emptied : Node → Node
  | file _ => file []
  | unreadable complaint => unreadable complaint
  | directory => directory

/-- Two trees have the same directories and files, though the bytes of the files may differ. -/
def SameShape (first second : FileTree) : Prop :=
  ∀ place, (first.node? place).map Node.emptied = (second.node? place).map Node.emptied

theorem sameShape_write (tree : FileTree) (place : Place) (first second : List UInt8) :
    SameShape (tree.write place first) (tree.write place second) := by
  intro other
  by_cases same : other = place
  · rw [same, node?_write_self, node?_write_self]
    rfl
  · rw [node?_write_of_ne tree same first second]

theorem isDirectory_eq_emptied (tree : FileTree) (place : Place) :
    tree.isDirectory place = ((tree.node? place).map Node.emptied == some .directory) := by
  unfold isDirectory
  cases tree.node? place with
  | none => rfl
  | some node => cases node <;> rfl

variable {first second : FileTree}

theorem SameShape.walk (shape : SameShape first second) (place : Place) (parts : List Text) :
    (first.walk place parts).map Node.emptied = (second.walk place parts).map Node.emptied := by
  induction parts generalizing place with
  | nil => exact shape place
  | cons part rest ih =>
    have directories : first.isDirectory place = second.isDirectory place := by
      rw [isDirectory_eq_emptied, isDirectory_eq_emptied, shape place]
    rw [FileTree.walk, FileTree.walk, directories]
    split
    · exact ih _
    · rfl

theorem SameShape.named? (shape : SameShape first second) (home : Place) (path : Text) :
    (first.named? home path).map Node.emptied = (second.named? home path).map Node.emptied := by
  unfold FileTree.named?
  split
  · rfl
  · exact shape.walk _ _

end MarkdownReview.FileTree
