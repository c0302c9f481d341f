import ComponentGate.Review.Rule

/-!
Rules on state that a component must not touch: the privileged objects, cookies, the location, raw
markup and the browser's storage.
-/

namespace ComponentGate

open Syntax

namespace Rule

def privilegedGlobals : List String := ["process", "global", "globalThis"]

/-- Receivers that are not themselves privileged. -/
def windowReceivers : List String := globalReceivers.filter (!privilegedGlobals.contains ·)

def storageGlobals : List String := ["localStorage", "sessionStorage"]

def accessKinds : List Kind := [.memberExpression, .subscriptExpression]

def assignmentKinds : List Kind := [.assignmentExpression, .augmentedAssignment]

def privilegedMessage (name : String) : String := s!"Access to the {name} object is forbidden"

def noPrivilegedGlobal : Rule :=
  onNodes "no-privileged-global" .securityViolation .error [.identifier, .shorthandProperty]
    fun document node =>
      let name := document.text node
      if privilegedGlobals.contains name then some (privilegedMessage name) else none

/-- Bare names are left to `noPrivilegedGlobal`. -/
def noPrivilegedMember : Rule :=
  onNodes "no-privileged-member" .securityViolation .error accessKinds fun document node =>
    match document.dottedName? node with
    | some name =>
      let (receiver, rest) := Document.splitReceiver name
      if windowReceivers.contains receiver && privilegedGlobals.contains rest then
        some (privilegedMessage rest)
      else none
    | none => none

/-- A security error on assignments to certain dotted names. -/
def onTargets (name : String) (targets : List String) (message : String) : Rule :=
  onNodes name .securityViolation .error assignmentKinds fun document node =>
    match (node.child? .left).bind document.dottedName? with
    | some target => if targets.contains target then some message else none
    | none => none

def noCookieWrite : Rule :=
  onTargets "no-cookie-write" ["document.cookie", "window.document.cookie"]
    "Writing document.cookie is forbidden"

def locations : List String := ["window.location", "document.location", "location"]

def noLocationAssignment : Rule :=
  onTargets "no-location-assignment" (locations ++ locations.map (· ++ ".href"))
    "Direct window.location manipulation is forbidden"

/-- The property that a member access names. -/
def property? (document : Document) (access : Tree) : Option String :=
  if access.isKind .memberExpression then (access.child? .property).map document.text else none

def noMarkupAssignment : Rule :=
  onNodes "no-markup-assignment" .securityViolation .error assignmentKinds fun document node =>
    match (node.child? .left).bind (property? document) with
    | some name =>
      if ["innerHTML", "outerHTML"].contains name then
        some s!"Assignment to {name} is forbidden - render markup with components instead"
      else none
    | none => none

def noMarkupInjection : Rule :=
  onNodes "no-markup-injection" .securityViolation .error [.callExpression] fun document call =>
    match document.calleeName? call with
    | some "document.write" => some "document.write() is forbidden"
    | some "document.writeln" => some "document.writeln() is forbidden"
    | _ =>
      if (call.child? .function).bind (property? document) = some "insertAdjacentHTML" then
        some "insertAdjacentHTML() is forbidden - render markup with components instead"
      else none

/-- The storage that an access reaches, by itself or through a receiver. -/
def storage? (document : Document) (access : Tree) : Option String :=
  match access.child? .object with
  | some object =>
    if !object.isKind .identifier then none
    else
      let name := document.text object
      if storageGlobals.contains name then some name
      else if globalReceivers.contains name then
        ((access.child? .property).map document.text).filter storageGlobals.contains
      else none
  | none => none

def storageAccess : Rule :=
  onNodes "storage-access" .securityViolation .warning accessKinds fun document access =>
    (storage? document access).map fun name =>
      s!"{name} usage detected - ensure no sensitive data is stored"

def dangerousInnerHtml : Rule :=
  onNodes "dangerous-inner-html" .securityViolation .warning [.markupAttribute]
    fun document given =>
      if given.namedChildren.head?.map document.text = some "dangerouslySetInnerHTML" then
        some "dangerouslySetInnerHTML bypasses escaping - make sure the content is sanitized"
      else none

end Rule

end ComponentGate
