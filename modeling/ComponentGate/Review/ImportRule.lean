import ComponentGate.Review.Rule

/-!
The rule on imports: every specifier that a module imports or re-exports must pass the policy.
-/

namespace ComponentGate

open Syntax

def loadingKinds : List Kind := [.importStatement, .exportStatement]

/-- The specifier that an import or re-export loads, where it has one. -/
def Document.specifier? (document : Document) (statement : Tree) : Option String :=
  (statement.child? .source).bind document.stringValue?

namespace Rule

def importPolicy : Rule where
  name := "import-policy"
  category := .forbiddenImport
  severity := .error
  kinds := loadingKinds
  check document policy place :=
    match document.specifier? place.tree with
    | some specifier =>
      if Specifier.isAllowed policy specifier then .clean
      else .report (Specifier.violation policy specifier)
    | none => .clean

end Rule

end ComponentGate
