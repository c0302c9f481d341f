import ComponentGate.Console.Table
import ComponentGate.Json.Writer
import ComponentGate.Repair.Staged
import ComponentGate.Review.Finding

/-!
What commands show: reports as tables or as data, repairs one a line, errors.
-/

namespace ComponentGate.Command

open Console

/-- Text in a style. -/
def styled (style text : String) : String := s!"[{style}]{text}[/{style}]"

def valid : String := styled "green" "valid"

def invalid : String := styled "red" "invalid"

def fixed : String := styled "green" "fixed"

def errorMark : String := styled "red" "Error:"

def reportColumns : List Column :=
  [⟨"Severity", some 8, false⟩, ⟨"Line", none, true⟩, ⟨"Category", none, false⟩,
    ⟨"Message", none, false⟩]

def findingCells (finding : Finding) : List String :=
  [finding.severity.name, (finding.line.map toString).getD "-", finding.category.name,
    escaped finding.message]

/-- The title of a component, its findings as a table, and the verdict, for a console with some
columns. -/
def showReport (columns : Nat) (report : Report) (path : String) (title : Option String) : String :=
  let heading :=
    match title with
    | some text => if text.isEmpty then "" else print columns (styled "bold" (escaped text))
    | none => ""
  let findings :=
    if report.findings.isEmpty then ""
    else table columns reportColumns (report.findings.map findingCells)
  let warnings := s!"{report.warnings.length} warning(s)"
  let verdict :=
    if report.isValid then s!"{valid} ({warnings})"
    else s!"{invalid} ({report.errors.length} error(s), {warnings})"
  heading ++ findings ++ print columns s!"{escaped path}: {verdict}"

/-- A report as data. -/
def reportData (report : Report) : Json :=
  .object
    [("is_valid", .bool report.isValid), ("errors", .array (report.errors.map .string)),
      ("warnings", .array (report.warnings.map .string))]

def showFixes (columns : Nat) (fixes : List String) : String :=
  if fixes.isEmpty then print columns (styled "dim" "No fixes needed.")
  else String.join (fixes.map fun fix => print columns s!"{fixed} {escaped fix}")

def showError (columns : Nat) (message : String) : String :=
  print columns s!"{errorMark} {escaped message}"

end ComponentGate.Command
