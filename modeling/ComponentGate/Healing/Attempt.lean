/-!
Attempts at a component. A run leaves a trail of them, one for each judgement that a stage passed on
a candidate.
-/

namespace ComponentGate.Healing

/-- What judges a candidate: the review of its source or the compiler. -/
inductive Stage where
  | validation | compile
  deriving DecidableEq, Repr, Inhabited

def Stage.name : Stage → String
  | .validation => "validation"
  | .compile => "compile"

/-- The name at the start of a sentence. -/
def Stage.title : Stage → String
  | .validation => "Validation"
  | .compile => "Compile"

def Stage.all : List Stage := [.validation, .compile]

inductive Outcome where
  | accepted | rejected
  deriving DecidableEq, Repr, Inhabited

def Outcome.name : Outcome → String
  | .accepted => "accepted"
  | .rejected => "rejected"

/-- The attempts of a stage are numbered from zero. -/
structure Attempt where
  stage : Stage
  index : Nat
  outcome : Outcome
  findings : List String
  fixes : List String
  warnings : List String
  deriving DecidableEq, Repr, Inhabited

def Attempt.isAccepted (attempt : Attempt) : Bool := attempt.outcome == .accepted

/-- Whether some attempt was rejected on the way. -/
def isHealed (attempts : List Attempt) : Bool := attempts.any (!·.isAccepted)

/-- How many attempts of a trail belong to a stage. -/
def countOf (stage : Stage) (attempts : List Attempt) : Nat :=
  (attempts.filter fun attempt => attempt.stage == stage).length

end ComponentGate.Healing
