import LoadProbe.Settings.Environment
import LoadProbe.Settings.Format
import LoadProbe.Settings.Reading
import LoadProbe.Text.Layout

/-!
# Settings from their sources

A file, if one is named, says more than the defaults, and the environment more than the file.

* `Settings.File.candidates` lists the files that a path may mean.
* `Settings.ofSources` reads the settings that a file and the environment make together.
-/

namespace LoadProbe.Settings

/-- The files that there are, each with its path and its text. -/
abbrev Files : Type := List (String × String)

namespace File

/-- The steps of a path that count: no empty ones, and none that stay where they are. -/
def steps (path : String) : List String :=
  ((Text.splitAt '/' path.toList).map String.ofList).filter fun step =>
    step ≠ "" && step ≠ "."

/-- Whether a path may mean a file under its own name: what ends like a directory does not. -/
def endsInName (path : String) : Bool :=
  match (Text.splitAt '/' path.toList).getLast? with
  | some last => last ≠ [] && last ≠ ['.'] && last ≠ ['.', '.']
  | none => false

/-- Whether a path starts at the root of all directories. -/
def isRooted (path : String) : Bool := "/".toList.isPrefixOf path.toList

/-- Whether a path names a file in the directory itself, neither below nor above it: where there are
no other directories, only such a file can be written. -/
def isLocal (path : String) : Bool :=
  !isRooted path && endsInName path && (steps path).length = 1

/-- The paths of the files that a path may mean, each with its format: the path itself, and the
path with one of the known endings appended. -/
def candidates (path : String) : List (String × Option Format) :=
  let steps := steps path
  let root := if isRooted path then "/" else ""
  match steps.getLast? with
  | none | some ".." => []
  | some name =>
      let plain := root ++ "/".intercalate steps
      let itself := if endsInName path then [(plain, Format.ofFileName? name)] else []
      itself ++ Format.endings.map fun (ending, format) => (plain ++ "." ++ ending, some format)

/-- The first file that there is of those that a path may mean, as its format and its text.  A file
under the path itself must be of a known format. -/
def find (files : Files) (path : String) : Except LoadFault (Format × String) :=
  match (candidates path).findSome? fun (candidate, format?) =>
      (List.lookup candidate files).map fun text => (format?, text) with
  | some (some format, text) => .ok (format, text)
  | _ => .error .noFile

/-- The entries that a file holds; a root that is no table has none. -/
def entries (files : Files) (path : String) : Except LoadFault (List (String × Tree)) := do
  let (format, text) ← find files path
  match format.read? text with
  | some root => return root.members
  | none => .error .unreadable

end File

/-- What the sources say together. -/
def Tree.ofSources (files : Files) (path : Option String) (environment : List (String × String)) :
    Except LoadFault Tree := do
  let entries ← match path with
    | some path => File.entries files path
    | none => .ok []
  return ((Tree.table []).overlay entries).overlay (environmentEntries environment)

/-- The settings that the sources make together. -/
def ofSources (files : Files) (path : Option String) (environment : List (String × String)) :
    Except LoadFault Settings := do
  ofTree (← Tree.ofSources files path environment)

end LoadProbe.Settings
