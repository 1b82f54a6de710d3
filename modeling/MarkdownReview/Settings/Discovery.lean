import MarkdownReview.Settings.Profile
import MarkdownReview.Text.Utf8
import MarkdownReview.Toml.Document
/-!
Finding the profile for a directory. From the directory up to the top of the tree, the first file
that holds a table of settings decides. A file that cannot be read, or is no TOML, is passed over;
one that is no text at all ends the search.
-/

namespace MarkdownReview.Discovery

structure Source where
  file : Text
  keys : List Text
deriving DecidableEq, Repr

def ownTable : Text := "mdscan".toList
def toolTable : Text := "tool".toList
def projectFile : Text := "pyproject.toml".toList
def ownFile : Text := ".mdscan.toml".toList

/-- The sources within one directory, in the order in which they are asked. -/
def sources : List Source :=
  [⟨projectFile, [toolTable, ownTable]⟩, ⟨ownFile, [ownTable]⟩,
   ⟨ownFile, [toolTable, ownTable]⟩]

inductive Fault
  | badProfile (fault : ProfileFault)
  | notText (fault : Text.Utf8.Fault)
deriving DecidableEq, Repr

/-- Reads the text of a file as a table, where it is one. That it always answers is an assumption:
readers with limits of their own, on the digits of a number or on the depth of nested tables, give
up beyond them. -/
abbrev TableReader := Text → Option (Table Text Value)

/-- The value that a source holds in a directory; nothing where there is none to be read. -/
def held? (read : TableReader) (tree : FileTree) (directory : Place) (source : Source) :
    Except Fault (Option Value) :=
  match tree.bytes? (directory ++ [source.file]) with
  | none => .ok none
  | some bytes =>
    match Text.Utf8.decode bytes with
    | .error fault => .error (.notText fault)
    | .ok text => .ok ((read text).bind fun table => (Value.table table).at? source.keys)

def profileOf (directory : Place) (source : Source) (value : Value) : Except Fault Profile :=
  let file := Path.ofPlace (directory ++ [source.file])
  (Profile.ofValue file source.keys value).mapError .badProfile

def firstHeld (read : TableReader) (tree : FileTree) :
    List (Place × Source) → Except Fault Profile
  | [] => .ok Profile.standard
  | (directory, source) :: rest =>
    match held? read tree directory source with
    | .error fault => .error fault
    | .ok none => firstHeld read tree rest
    | .ok (some value) => profileOf directory source value

def candidates (directory : Place) : List (Place × Source) :=
  directory.upward.flatMap fun above => sources.map fun source => (above, source)

def findBy (read : TableReader) (tree : FileTree) (directory : Place) : Except Fault Profile :=
  firstHeld read tree (candidates directory)

def find (tree : FileTree) (directory : Place) : Except Fault Profile :=
  findBy Toml.read tree directory

end MarkdownReview.Discovery
