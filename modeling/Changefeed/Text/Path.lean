import Changefeed.Text.Lines

/-!
# Paths

A path in its plain form has no empty steps and no steps that stay where they are.
-/

namespace Changefeed.Text

/-- The parts of a path between slashes. -/
def pathParts (path : String) : List String :=
  (split '/' path.toList).map String.ofList

/-- The steps of a path that lead somewhere. -/
def pathSteps (path : String) : List String :=
  (pathParts path).filter fun step => step ≠ "" && step ≠ "."

/-- What a path starts with: nothing, one slash, or exactly two, which stay as they are. -/
def pathRoot (path : String) : String :=
  let slashes := (path.toList.takeWhile (· = '/')).length
  if slashes = 0 then "" else if slashes = 2 then "//" else "/"

/-- The plain form of a path. -/
def plainPath (path : String) : String :=
  let plain := pathRoot path ++ "/".intercalate (pathSteps path)
  if plain.isEmpty then "." else plain

end Changefeed.Text
