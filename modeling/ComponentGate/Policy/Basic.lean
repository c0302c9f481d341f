/-!
Import policies: which module specifiers a component may load. A specifier passes when it is relative
to the project, begins with one of the project's own aliases, or matches an entry of the allow-list.
-/

namespace ComponentGate

/-- An allow-list with the project's alias prefixes. Keys of `aliases` are further prefixes. -/
structure Policy where
  allowedImports : List String
  aliasPrefixes : List String
  aliases : List (String × String)
  deriving DecidableEq, Repr, Inhabited

namespace Policy

def standard : Policy where
  allowedImports := ["react", "react-dom", "react/jsx-runtime"]
  aliasPrefixes := ["@/", "~/", "#/"]
  aliases := []

/-- The elements of a list without repetitions, each where it first occurs. -/
def distinct (entries : List String) : List String :=
  entries.foldl (fun kept entry => if kept.contains entry then kept else kept ++ [entry]) []

/-- The policy with more allowed entries. -/
def withAllowed (policy : Policy) (specifiers : List String) : Policy :=
  { policy with allowedImports := distinct (policy.allowedImports ++ specifiers) }

/-- A pattern without the star at its end. -/
def withoutStar (pattern : String) : String :=
  if pattern.endsWith "*" then String.ofList pattern.toList.dropLast else pattern

/-- The prefixes of specifiers inside the project. -/
def localPrefixes (policy : Policy) : List String :=
  policy.aliasPrefixes ++ (policy.aliases.map fun entry => withoutStar entry.1).filter (· ≠ "")

end Policy

namespace Specifier

/-- Whether `start` begins the text. -/
def startsWith (text start : String) : Bool := start.toList.isPrefixOf text.toList

/-- Paths from here or from the root; a double slash names a host instead. -/
def isRelative (specifier : String) : Bool :=
  !startsWith specifier "//" && (startsWith specifier "." || startsWith specifier "/")

/-- An entry allows itself and everything under it; one that ends in a star allows whatever begins
like it. -/
def matchesEntry (specifier entry : String) : Bool :=
  if entry.endsWith "*" then startsWith specifier (Policy.withoutStar entry)
  else specifier == entry || startsWith specifier (entry ++ "/")

def isAllowed (policy : Policy) (specifier : String) : Bool :=
  specifier ≠ "" && (isRelative specifier ||
    policy.localPrefixes.any (startsWith specifier) ||
    policy.allowedImports.any (matchesEntry specifier))

def violation (policy : Policy) (specifier : String) : String :=
  let listed := ", ".intercalate policy.allowedImports
  let allowed := if listed.isEmpty then "none" else listed
  s!"Import from \"{specifier}\" is not allowed. Only relative imports, " ++
    s!"project aliases and these packages may be imported: {allowed}"

end Specifier

end ComponentGate
