import ComponentGate.Preamble.Basic
import ComponentGate.Review.AccessibilityRules
import ComponentGate.Review.ExecutionRules
import ComponentGate.Review.ImportRule
import ComponentGate.Review.StateRules

/-!
Reviewing a source against a policy and a list of rules. One walk hands each node to the rules that
inspect its construct, in the order of the list; the findings come in the order of the walk, and those
that waited for a label come after all others. A source that cannot be parsed has a single finding.
-/

namespace ComponentGate

open Syntax

namespace Rule

def standard : List Rule :=
  [importPolicy, noEval, noFunctionConstructor, noRequire, noDynamicImport, noStringTimer, noFetch,
    noNetworkConstructor, noPrivilegedGlobal, noPrivilegedMember, noCookieWrite,
    noLocationAssignment, noMarkupAssignment, noMarkupInjection, storageAccess, dangerousInnerHtml,
    clickableWithoutKeyboard, imgAlt, formControlLabel]

/-- The standard rule of a name. -/
def find? (name : String) : Option Rule := standard.find? fun rule => rule.name == name

end Rule

/-- What a rule says about a node that starts on a line. -/
structure Judgement where
  rule : Rule
  line : Nat
  verdict : Verdict

namespace Judgement

/-- The finding that a judgement makes at once. -/
def immediate? (judgement : Judgement) : Option Finding :=
  match judgement.verdict with
  | .report message => some (judgement.rule.finding message (some judgement.line))
  | _ => none

/-- The finding that waits for a label, with the control that the label must name. -/
def waiting? (judgement : Judgement) : Option (String × Finding) :=
  match judgement.verdict with
  | .unlessLabelled target message =>
    some (target, judgement.rule.finding message (some judgement.line))
  | _ => none

/-- The control that a label names. -/
def labelled? (judgement : Judgement) : Option String :=
  match judgement.verdict with
  | .labels target => some target
  | _ => none

end Judgement

/-- What the rules say about the node at a place. -/
def judgementsAt (document : Document) (policy : Policy) (rules : List Rule) (place : Place) :
    List Judgement :=
  (rules.filter (·.inspects place)).map fun rule =>
    ⟨rule, place.tree.line, rule.check document policy place⟩

def judgements (document : Document) (policy : Policy) (rules : List Rule) : List Judgement :=
  document.root.places.flatMap (judgementsAt document policy rules)

/-- The findings of a walk, and after them those whose control no label names. -/
def settle (judgements : List Judgement) : List Finding :=
  let labelled := judgements.filterMap Judgement.labelled?
  let waiting := judgements.filterMap Judgement.waiting?
  judgements.filterMap Judgement.immediate? ++
    (waiting.filter fun entry => !labelled.contains entry.1).map (·.2)

/-- The finding on a source that cannot be parsed. -/
def parseFailure (line : Option Nat) : Finding where
  severity := .error
  category := .parseError
  message :=
    match line with
    | some number => s!"Source could not be parsed: syntax error near line {number}"
    | none => "Source could not be parsed"
  line := line

def reviewDocument (document : Document) (policy : Policy) (rules : List Rule) : Report :=
  if document.hasErrors then ⟨[parseFailure document.errorLine?]⟩
  else ⟨settle (judgements document policy rules)⟩

/-- Reviews a source, with or without a preamble. -/
def review (parse : Parse) (source : String) (policy : Policy) (rules : List Rule) : Report :=
  reviewDocument (.read parse (Preamble.split source).body) policy rules

/-- The specifiers that a module's own statements load, in order; none of a source that cannot be
parsed. -/
def importedSpecifiers (parse : Parse) (source : String) : List String :=
  let document := Document.read parse (Preamble.split source).body
  if document.hasErrors then []
  else
    (document.root.namedChildren.filter (·.isOneOf loadingKinds)).filterMap document.specifier?

end ComponentGate
