import ComponentGate.Document.Names
import ComponentGate.Policy.Basic
import ComponentGate.Review.Finding

/-!
Rules. A rule names the constructs it inspects and judges one place at a time, so that a single walk
serves any number of rules. A verdict on a form control may depend on a label that stands elsewhere;
such a verdict says which label it waits for, and labels say which controls they name.
-/

namespace ComponentGate

open Syntax

inductive Verdict where
  | clean
  | report (message : String)
  /-- A report that stands unless some label names the control `target`. -/
  | unlessLabelled (target message : String)
  /-- A label for the control `target`. -/
  | labels (target : String)
  deriving DecidableEq, Repr, Inhabited

/-- The verdict that reports `message` when there is one. -/
def Verdict.ofMessage? : Option String → Verdict
  | some message => .report message
  | none => .clean

structure Rule where
  name : String
  category : Category
  severity : Severity
  kinds : List Kind
  check : Document → Policy → Place → Verdict

namespace Rule

/-- Whether the rule inspects the node at a place. -/
def inspects (rule : Rule) (place : Place) : Bool := place.tree.isOneOf rule.kinds

/-- The rule's finding; a known line is also told in the message. -/
def finding (rule : Rule) (message : String) (line : Option Nat) : Finding where
  severity := rule.severity
  category := rule.category
  message :=
    match line with
    | some number => s!"{message} (line {number})"
    | none => message
  line := line

/-- A rule that looks at nodes alone. -/
def onNodes (name : String) (category : Category) (severity : Severity) (kinds : List Kind)
    (message? : Document → Tree → Option String) : Rule where
  name := name
  category := category
  severity := severity
  kinds := kinds
  check document _ place := .ofMessage? (message? document place.tree)

/-- A rule that reports every call of one name. -/
def onCallee (name callee : String) (severity : Severity) (category : Category)
    (message : String) : Rule :=
  onNodes name category severity [.callExpression] fun document call =>
    if document.calleeName? call = some callee then some message else none

end Rule

end ComponentGate
