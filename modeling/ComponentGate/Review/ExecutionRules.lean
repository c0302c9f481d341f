import ComponentGate.Review.Rule

/-!
Rules on running text as code and on opening connections.
-/

namespace ComponentGate

open Syntax

namespace Rule

/-- A security error on calls. -/
def onCalls (name : String) (message? : Document → Tree → Option String) : Rule :=
  onNodes name .securityViolation .error [.callExpression] message?

def noEval : Rule := onCalls "no-eval" fun document call =>
  if document.calleeName? call = some "eval" then some "Use of eval() is forbidden" else none

def noFunctionConstructor : Rule :=
  onNodes "no-function-constructor" .securityViolation .error [.callExpression, .newExpression]
    fun document node =>
      let name :=
        if node.isKind .newExpression then document.constructorName? node
        else document.calleeName? node
      if name = some "Function" then some "Use of the Function constructor is forbidden" else none

def noRequire : Rule := onCalls "no-require" fun document call =>
  if document.calleeName? call = some "require" then
    some "Use of require() is forbidden - use ES module imports instead"
  else none

def noDynamicImport : Rule := onCalls "no-dynamic-import" fun _ call =>
  if (call.child? .function).any (·.isKind .importName) then
    some "Dynamic import() is forbidden"
  else none

def timers : List String := ["setTimeout", "setInterval"]

def noStringTimer : Rule := onCalls "no-string-timer" fun document call =>
  match document.calleeName? call with
  | some name =>
    if timers.contains name &&
        call.callArguments.head?.any (·.isOneOf [.string, .templateString]) then
      some s!"Passing a string to {name}() evaluates it as code and is forbidden"
    else none
  | none => none

def noFetch : Rule := onCalls "no-fetch" fun document call =>
  match document.calleeName? call with
  | some "fetch" =>
    some "Direct fetch() calls are forbidden - use the provided utility functions instead"
  | some "navigator.sendBeacon" => some "navigator.sendBeacon() is forbidden"
  | _ => none

def connections : List String := ["XMLHttpRequest", "WebSocket", "EventSource"]

def noNetworkConstructor : Rule :=
  onNodes "no-network-constructor" .securityViolation .error [.newExpression]
    fun document construction =>
      match document.constructorName? construction with
      | some name =>
        if connections.contains name then
          some s!"{name} is forbidden - use the provided utility functions instead"
        else none
      | none => none

end Rule

end ComponentGate
