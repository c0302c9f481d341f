import ComponentGate.Text.Lines

/-!
Directories in their plain spelling.
-/

namespace ComponentGate.Request

/-- Several slashes at the start count as one, but for exactly two. -/
def pathRoot (path : List Char) : String :=
  match (path.takeWhile (· = '/')).length with
  | 0 => ""
  | 2 => "//"
  | _ => "/"

/-- A path without empty steps and steps that stay in place; the empty path is the current one. -/
def plainPath (path : String) : String :=
  let steps := (Text.splitAt '/' path.toList).filter fun step => step ≠ [] && step ≠ ['.']
  let plain := pathRoot path.toList ++ "/".intercalate (steps.map String.ofList)
  if plain.isEmpty then "." else plain

end ComponentGate.Request
