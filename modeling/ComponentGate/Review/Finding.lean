/-!
Findings about a component's source, and reports of them. Errors block acceptance, warnings do not.
-/

namespace ComponentGate

inductive Severity where
  | error | warning
  deriving DecidableEq, Repr, Inhabited

def Severity.name : Severity → String
  | .error => "error"
  | .warning => "warning"

inductive Category where
  | parseError | forbiddenImport | securityViolation | accessibility
  deriving DecidableEq, Repr, Inhabited

def Category.name : Category → String
  | .parseError => "parse_error"
  | .forbiddenImport => "forbidden_import"
  | .securityViolation => "security_violation"
  | .accessibility => "accessibility"

def Category.all : List Category :=
  [.parseError, .forbiddenImport, .securityViolation, .accessibility]

structure Finding where
  severity : Severity
  category : Category
  message : String
  line : Option Nat
  deriving DecidableEq, Repr, Inhabited

def Finding.isError (finding : Finding) : Bool := finding.severity == .error

structure Report where
  findings : List Finding
  deriving DecidableEq, Repr, Inhabited

namespace Report

def messages (report : Report) (severity : Severity) : List String :=
  (report.findings.filter fun finding => finding.severity == severity).map Finding.message

def errors (report : Report) : List String := report.messages .error

def warnings (report : Report) : List String := report.messages .warning

def isValid (report : Report) : Bool := !report.findings.any Finding.isError

def ofCategory (report : Report) (category : Category) : List Finding :=
  report.findings.filter fun finding => finding.category == category

def summary (report : Report) : String :=
  let verdict := if report.isValid then "valid" else "invalid"
  s!"{verdict}: {report.errors.length} error(s), {report.warnings.length} warning(s)"

end Report

end ComponentGate
