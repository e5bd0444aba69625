import Changefeed.Text.Path

/-!
# Files

The files that a command can reach, by their paths from where it runs.
-/

namespace Changefeed.CommandLine

/-- What stands at a path. -/
inductive FileEntry where
  | file (text : String)
  | directory
  | missing
deriving DecidableEq, Repr, Inhabited

/-- Files with their texts, by plain paths. -/
abbrev Files := List (String × String)

namespace Files

/-- Whether the last step of a path can only lead to a directory. -/
def endsInDirectory (path : String) : Bool :=
  ["", ".", ".."].contains ((Text.pathParts path).getLast?.getD "")

/-- Whether a path leads to a directory: where the command runs, above it, or above a file. -/
def isDirectory (fs : Files) (path : String) : Bool :=
  let steps := Text.pathSteps path
  steps.all (· = "..") || fs.any fun (name, _) =>
    (Text.plainPath path ++ "/").isPrefixOf name

/-- What stands at a path. -/
def find (fs : Files) (path : String) : FileEntry :=
  if path.isEmpty then .missing
  else
    match List.lookup (Text.plainPath path) fs with
    | some text => if endsInDirectory path then .missing else .file text
    | none => if isDirectory fs path then .directory else .missing

/-- Whether anything stands at a path. -/
def hasEntry (fs : Files) (path : String) : Bool :=
  fs.find path ≠ .missing

/-- The files with one of them written. -/
def write (fs : Files) (path text : String) : Files :=
  (path, text) :: fs.filter (·.1 ≠ path)

end Files
end Changefeed.CommandLine
