import ResourceInspector.Path.Join
/-!
# Walking a path

Where a path leads from a directory. Two paths that lead to the same directory from everywhere mean
the same, however they are spelled.
-/

namespace ResourceInspector.Path

/-- A directory, as the names on the way to it from the root, the last first. -/
abbrev Directory := List String

/-- One component of a walk: a name descends, `..` climbs and stays where it is at the root, and an
empty component or `.` does nothing. -/
def enter (dir : Directory) (component : String) : Directory :=
  if component = "" ∨ component = "." then dir
  else if component = ".." then dir.tail
  else component :: dir

/-- The directory that a path leads to from `dir`. A rooted path starts over at the root. -/
def walk (dir : Directory) (path : String) : Directory :=
  (Text.fields '/' path).foldl enter (if isRooted path then [] else dir)

end ResourceInspector.Path
