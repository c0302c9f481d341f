import ComponentGate.Command.Execution
import ComponentGate.Syntax.Parse

/-!
The command line program.
-/

namespace ComponentGate.Command

/-- What stands under a path of the file system. -/
def entryOnDisk (path : String) : IO Entry := do
  try
    return .file (← IO.FS.readBinFile path)
  catch error =>
    match error with
    | .inappropriateType .. => return .directory
    | _ => return .absent

/-- The entries of all paths that a command line names. -/
def filesFor (arguments : List String) : IO Files := do
  let paths :=
    match Invocation.ofArguments arguments with
    | .ok invocation => invocation.paths
    | .error _ => []
  let found ← paths.mapM fun path => return (path, ← entryOnDisk path)
  return fun path => (Entries.get? found path).getD .absent

/-- The columns that the console says it has, or as many as an old terminal has. -/
def consoleColumns : IO Nat := do
  return ((← IO.getEnv "COLUMNS").bind String.toNat?).getD 80

end ComponentGate.Command

open ComponentGate in
def main (arguments : List String) : IO UInt32 := do
  let surroundings := ⟨← Command.filesFor arguments, ← Command.consoleColumns⟩
  let effect := Command.execute Syntax.parse surroundings arguments
  if effect.exitCode = 2 then IO.eprint effect.output else IO.print effect.output
  if let some (path, code) := effect.written then IO.FS.writeFile path code
  if let some error := effect.fault then IO.eprintln error.message
  return UInt32.ofNat effect.exitCode
