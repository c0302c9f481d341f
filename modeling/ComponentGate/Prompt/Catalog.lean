/-!
The catalog of a project's components and utilities, and its description for the model. Utilities come
before components; an entry is described on lines of its own.
-/

namespace ComponentGate

inductive EntryKind where
  | component | utility
  deriving DecidableEq, Repr, Inhabited

def EntryKind.name : EntryKind → String
  | .component => "component"
  | .utility => "utility"

def EntryKind.all : List EntryKind := [.component, .utility]

/-- Something of a project that generated code may use. -/
structure CatalogEntry where
  name : String
  description : String
  kind : EntryKind
  importPath : Option String
  category : Option String
  signature : Option String
  returnType : Option String
  props : Option String
  usage : Option String
  deriving DecidableEq, Repr, Inhabited

namespace CatalogEntry

/-- A text without the colons and spaces at its end. -/
def withoutTrailingMarks (text : String) : String :=
  String.ofList (text.toList.reverse.dropWhile fun c => c == ':' || c == ' ').reverse

/-- A line about a detail; none where the detail is absent or empty. -/
def detail (label : String) (value : Option String) : List String :=
  match value with
  | some text => if text.isEmpty then [] else [s!"  {label}: {text}"]
  | none => []

/-- How an entry is imported. -/
def importLine (name path : String) : String := s!"import \x7b {name} \x7d from '{path}';"

def describe (entry : CatalogEntry) : List String :=
  withoutTrailingMarks s!"- {entry.name}: {entry.description}" ::
    (detail "Signature" entry.signature ++ detail "Returns" entry.returnType ++
      detail "Props" entry.props ++ detail "Category" entry.category ++
      detail "Import" (entry.importPath.map fun path =>
        if path.isEmpty then "" else importLine entry.name path) ++
      detail "Example" entry.usage)

end CatalogEntry

namespace Prompt

def utilitiesTitle : String := "AVAILABLE UTILITIES (the only permitted way to fetch data):"

def utilitiesAdvice : String :=
  "Call async utilities from useEffect, and handle loading and error states."

def componentsTitle : String := "AVAILABLE COMPONENTS:"

def importAdvice : String :=
  "Always use the exact import paths listed above, as named imports."

def ofKind (entries : List CatalogEntry) (kind : EntryKind) : List CatalogEntry :=
  entries.filter fun entry => entry.kind == kind

/-- A title, the entries of one kind, and what is said about all of them; nothing without entries. -/
def kindSection (title : String) (entries : List CatalogEntry) (advice : List String) : List String :=
  if entries.isEmpty then []
  else ["\n".intercalate (title :: entries.flatMap CatalogEntry.describe ++ advice)]

/-- The catalog for the model; empty when the catalog is. -/
def catalogSection (entries : List CatalogEntry) : String :=
  let sections :=
    kindSection utilitiesTitle (ofKind entries .utility) [utilitiesAdvice] ++
      kindSection componentsTitle (ofKind entries .component) []
  if sections.isEmpty then "" else "\n\n".intercalate (sections ++ [importAdvice])

end Prompt

end ComponentGate
