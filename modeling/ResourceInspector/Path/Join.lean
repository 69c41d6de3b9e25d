import ResourceInspector.Text.Fields
/-!
# Joining path segments

Segments are joined by `/` and the result is cleaned lexically: repeated slashes collapse, `.`
drops out and `..` takes away the component before it. The cleaned path is the shortest that leads
to the same place.
-/

namespace ResourceInspector.Path

open Text

/-- A path that starts at the root. -/
def isRooted (path : String) : Bool :=
  path.toList.head? == some '/'

/-- Adds a component to the cleaned components before it, the last of which comes first. At the
root there is nothing above to climb to, so `..` is dropped there and kept elsewhere. -/
def push (rooted : Bool) (kept : List String) (component : String) : List String :=
  if component = "" ∨ component = "." then kept
  else if component = ".." then
    match kept with
    | last :: before =>
      if last ≠ ".." then before else if rooted then kept else ".." :: kept
    | [] => if rooted then [] else [".."]
  else component :: kept

/-- The components that are left of a path once it is cleaned, first to last. -/
def cleanComponents (path : String) : List String :=
  ((fields '/' path).foldl (push (isRooted path)) []).reverse

/-- The cleaned path. What cleans away completely is `/` at the root and `.` elsewhere. -/
def clean (path : String) : String :=
  let body := joinFields '/' (cleanComponents path)
  if isRooted path then "/" ++ body else if body = "" then "." else body

/-- The segments that are not empty, joined and not yet cleaned. -/
def concat (segments : List String) : String :=
  joinFields '/' (segments.filter (· ≠ ""))

/-- Joins segments into a cleaned path. Empty segments are ignored, and where all are empty so is
the path. -/
def join (segments : List String) : String :=
  if concat segments = "" then "" else clean (concat segments)

end ResourceInspector.Path
