import ComponentGate.Command.Arguments
import ComponentGate.Command.Files
import ComponentGate.Command.Display
import ComponentGate.Erasure.Basic
import ComponentGate.Policy.Intake
import ComponentGate.Review.Validation

/-!
Running a command line against the files that it can see. `check` reviews a component, `fix` repairs
it; a file is written only when `fix` is told to.
-/

namespace ComponentGate.Command

/-- What a command line finds: the files, and a console with some columns. -/
structure Surroundings where
  files : Files
  columns : Nat

/-- What a command does: the text it shows, its exit code, and the file it writes. -/
structure Effect where
  exitCode : Nat
  output : String
  written : Option (String × String)
  /-- An error that ends the command without a message. -/
  fault : Option Text.DecodingError
  deriving DecidableEq, Repr

namespace Effect

def shows (exitCode : Nat) (output : String) : Effect := ⟨exitCode, output, none, none⟩

def ofUsageError (error : UsageError) : Effect := shows 2 error.message

end Effect

def versionText : String := "vibeguard, version 0.1.0\n"

/-- The bytes of the file that a parameter names. -/
def openFile (files : Files) (name : CommandName) (parameter path : String) :
    Except UsageError ByteArray :=
  match files path with
  | .file bytes => .ok bytes
  | .directory => .error ⟨some name, .directory parameter path⟩
  | .absent => .error ⟨some name, .absentFile parameter path⟩

/-- The one operand of a command, and the bytes of its file. -/
def openOperand (files : Files) (name : CommandName) (reading : Reading) :
    Except UsageError (String × ByteArray) :=
  match reading.operands with
  | [] => .error ⟨some name, .missingPath⟩
  | path :: extra => do
    let bytes ← openFile files name "PATH" path
    if extra.isEmpty then return (Request.plainPath path, bytes)
    else .error ⟨some name, .extraOperands extra⟩

/-- Why the files of a command are of no use. -/
inductive LoadError where
  | undecodable (error : Text.DecodingError)
  | policy (issues : List Intake.Issue)
  deriving Repr

def LoadError.message : LoadError → String
  | .undecodable error => error.message
  | .policy issues =>
    let noun := if issues.length = 1 then "error" else "errors"
    s!"{issues.length} validation {noun} for ValidationPolicy"

def loadText (bytes : ByteArray) : Except LoadError String := (readText bytes).mapError .undecodable

/-- The policy in a file, or the standard one, with more allowed entries. -/
def loadPolicy (file : Option ByteArray) (allowed : List String) : Except LoadError Policy := do
  let policy ←
    match file with
    | some bytes => (Policy.ofText (← loadText bytes)).mapError LoadError.policy
    | none => .ok .standard
  return if allowed.isEmpty then policy else policy.withAllowed allowed

/-- Reviews the source of a file. -/
def checkSource (parse : Parse) (columns : Nat) (reading : Reading) (path source : String)
    (policy : Policy) : Effect :=
  let report := review parse source policy Rule.standard
  let output :=
    if reading.has "--json" then (reportData report).writeIndented 0 ++ "\n"
    else showReport columns report path (Entries.get? (Preamble.fields source) "title")
  .shows (if report.isValid then 0 else 1) output

def check (parse : Parse) (surroundings : Surroundings) (reading : Reading) :
    Except UsageError Effect := do
  let policyFile ←
    match (reading.values "--policy").getLast? with
    | some file => (openFile surroundings.files .check "--policy" file).map some
    | none => .ok none
  let (path, bytes) ← openOperand surroundings.files .check reading
  let loaded : Except LoadError Effect := do
    let policy ← loadPolicy policyFile (reading.values "--allow")
    return checkSource parse surroundings.columns reading path (← loadText bytes) policy
  match loaded with
  | .ok effect => return effect
  | .error error => return .shows 1 (showError surroundings.columns error.message)

/-- A repaired source, with its types erased when that is asked for. -/
def repairFor (parse : Parse) (erase : Bool) (source : String) : Repair.Repaired :=
  let repaired := repair parse source
  if erase then
    let erased := eraseTypes parse repaired.code
    if erased = repaired.code then repaired
    else ⟨erased, repaired.fixes ++ ["Erased TypeScript syntax"]⟩
  else repaired

/-- Shows or writes a repaired source. -/
def fixSource (parse : Parse) (columns : Nat) (reading : Reading) (path source : String) : Effect :=
  let repaired := repairFor parse (reading.has "--strip-types") source
  let shown := showFixes columns repaired.fixes
  if reading.has "--check" then .shows (if repaired.changed then 1 else 0) shown
  else if reading.has "--write" then
    if repaired.changed then
      { exitCode := 0
        output := shown ++ Console.print columns s!"Wrote {path}"
        written := some (path, repaired.code)
        fault := none }
    else .shows 0 shown
  else
    let ending := if repaired.code.endsWith "\n" then "" else "\n"
    .shows 0 (shown ++ "\n" ++ repaired.code ++ ending)

def fix (parse : Parse) (surroundings : Surroundings) (reading : Reading) :
    Except UsageError Effect := do
  let (path, bytes) ← openOperand surroundings.files .fix reading
  match readText bytes with
  | .error error => return ⟨1, "", none, some error⟩
  | .ok source => return fixSource parse surroundings.columns reading path source

/-- What options mean, one a line. -/
def optionLines : Option CommandName → List String
  | none =>
    ["  -v, --verbose  Enable debug logging.",
      "  --version      Show the version and exit.",
      "  --help         Show this message and exit."]
  | some .check =>
    ["  --policy FILE  JSON file with a validation policy.",
      "  --allow TEXT   Additional allowed import (repeatable).",
      "  --json         Print the report as JSON.",
      "  --help         Show this message and exit."]
  | some .fix =>
    ["  -w, --write    Write the fixed source back to PATH.",
      "  --check        Only report; exit with status 1 if fixes would be applied.",
      "  --strip-types  Also erase TypeScript syntax, as the pipeline does before",
      "                 compiling.",
      "  --help         Show this message and exit."]

def purposeOf : Option CommandName → String
  | none => "Validate and repair generated UI components."
  | some .check => "Validate PATH and exit with status 1 if it has errors."
  | some .fix => "Auto-fix PATH and print the result (or write it with --write)."

def commandLines : Option CommandName → List String
  | none =>
    ["", "Commands:", s!"  check  {purposeOf (some .check)}", s!"  fix    {purposeOf (some .fix)}"]
  | some _ => []

def helpText (name : Option CommandName) : String :=
  "\n".intercalate
    ([usageOf name, "", s!"  {purposeOf name}", "", "Options:"] ++ optionLines name ++
      commandLines name) ++ "\n"

def runCommand (parse : Parse) (surroundings : Surroundings) (name : CommandName) (reading : Reading) :
    Except UsageError Effect :=
  match name with
  | .check => check parse surroundings reading
  | .fix => fix parse surroundings reading

/-- Runs a command line. -/
def execute (parse : Parse) (surroundings : Surroundings) (arguments : List String) : Effect :=
  match Invocation.ofArguments arguments with
  | .error error => .ofUsageError error
  | .ok .version => .shows 0 versionText
  | .ok (.help name) => .shows 0 (helpText name)
  | .ok .idle => .shows 2 (helpText none)
  | .ok (.command name reading) =>
    match runCommand parse surroundings name reading with
    | .error error => .ofUsageError error
    | .ok effect => effect

end ComponentGate.Command
