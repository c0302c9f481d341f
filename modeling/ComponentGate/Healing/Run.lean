import ComponentGate.Erasure.Basic
import ComponentGate.Healing.Config
import ComponentGate.Healing.Trace
import ComponentGate.Preamble.Standard
import ComponentGate.Repair.Staged
import ComponentGate.Request.Basic
import ComponentGate.Review.Validation

/-!
Runs. A candidate is generated, repaired and reviewed, again with feedback while the review rejects it
and retries are left; then it is compiled. After a failed compilation a new candidate is generated with
feedback; it has to pass the review at once. What is compiled is made from a source that passed.
-/

namespace ComponentGate.Healing

/-- What a run needs. Generator and compiler answer each call by its number and may answer the same
question differently each time. -/
structure Setting (ε : Type) where
  parse : Parse
  config : Config
  request : Request
  today : Date
  generate : Nat → String → Except ε String
  compile : Nat → CompileCall → Except CompileFault Compiled

structure Success where
  artifact : String
  metadata : List (String × Json)
  source : String
  attempts : List Attempt
  warnings : List String
  deriving Repr, Inhabited

def Success.healed (success : Success) : Bool := isHealed success.attempts

/-- Why a run brings no component. -/
inductive RunError (ε : Type) where
  | request (error : RequestError)
  | generator (error : ε)
  /-- A failure, and what the compiler reported last when it used up the compiler's retries. -/
  | failed (failure : Failure) (cause : Option CompileFault)

/-- A run's result and all that it did. -/
structure Run (ε : Type) where
  result : Except (RunError ε) Success
  trace : Trace

/-- A repaired source with its review. -/
structure Candidate where
  code : String
  fixes : List String
  report : Report
  deriving DecidableEq, Repr, Inhabited

/-- The attempt that a candidate's review makes. -/
def Candidate.attempt (candidate : Candidate) (index : Nat) : Attempt where
  stage := .validation
  index := index
  outcome := if candidate.report.isValid then .accepted else .rejected
  findings := candidate.report.errors
  fixes := candidate.fixes
  warnings := candidate.report.warnings

/-- The attempt that a compiler's answer makes. -/
def compileAttempt (index : Nat) : Except CompileFault Compiled → Attempt
  | .ok _ => ⟨.compile, index, .accepted, [], [], []⟩
  | .error fault => ⟨.compile, index, .rejected, [fault.feedback], [], []⟩

namespace Setting

/-- Repairs and reviews what the generator wrote. -/
def examine (setting : Setting ε) (generated : String) : Candidate :=
  let repaired := repair setting.parse generated
  { code := repaired.code
    fixes := repaired.fixes
    report := review setting.parse repaired.code setting.request.policy Rule.standard }

def record (setting : Setting ε) (trace : Trace) (attempt : Attempt) : Trace :=
  trace.record setting.config.observed attempt

/-- The trace after the generator wrote a text and it was examined. -/
def reviewed (setting : Setting ε) (trace : Trace) (instruction generated : String) : Trace :=
  setting.record (trace.add (.asked instruction (some generated)))
    ((setting.examine generated).attempt (countOf .validation trace.attempts))

/-- Generates a candidate and examines it. -/
def candidate (setting : Setting ε) (instruction : String) (trace : Trace) :
    Except ε Candidate × Trace :=
  match setting.generate trace.instructions.length instruction with
  | .error error => (.error error, trace.add (.asked instruction none))
  | .ok generated =>
    (.ok (setting.examine generated), setting.reviewed trace instruction generated)

/-- The source as the compiler gets it. -/
def prepare (setting : Setting ε) (source : String) : String :=
  let titled :=
    if setting.config.ensurePreamble then
      Preamble.ensure source (Prompt.sanitized setting.request.instruction) setting.today
    else source
  if setting.config.eraseTypes then eraseTypes setting.parse titled else titled

/-- How the compiler is called for a candidate. -/
def callFor (setting : Setting ε) (candidate : Candidate) : CompileCall :=
  ⟨setting.prepare candidate.code, setting.request.projectPath⟩

/-- The compiler's answer to the next call. -/
def answerTo (setting : Setting ε) (candidate : Candidate) (trace : Trace) :
    Except CompileFault Compiled :=
  setting.compile trace.compilations.length (setting.callFor candidate)

/-- The trace after the compiler answered. -/
def compiled (setting : Setting ε) (trace : Trace) (candidate : Candidate) (retry : Nat) : Trace :=
  let answer := setting.answerTo candidate trace
  setting.record (trace.add (.compiled (setting.callFor candidate) answer))
    (compileAttempt retry answer)

/-- The compile stage, from the retry of a number on, with `left` retries after it. `errors` are those
of the stage so far. -/
def compileStage (setting : Setting ε) (instruction : String) :
    (left retry : Nat) → (errors : List String) → Candidate → Trace → Run ε
  | left, retry, errors, candidate, trace =>
    let judged := setting.compiled trace candidate retry
    match setting.answerTo candidate trace with
    | .ok compiled =>
      ⟨.ok ⟨compiled.artifact, compiled.metadata, (setting.callFor candidate).source,
        judged.attempts, candidate.report.warnings⟩, judged⟩
    | .error fault =>
      let message := fault.feedback
      let errors := errors ++ [message]
      match left with
      | 0 =>
        let failure := Failure.exhausted .compile retry [message] (some errors) judged.attempts
        ⟨.error (.failed failure (some fault)), judged⟩
      | left + 1 =>
        let next := setting.config.feedback ⟨.compile, retry + 1, instruction, [message]⟩
        match setting.candidate next judged with
        | (.error error, trace) => ⟨.error (.generator error), trace⟩
        | (.ok candidate, trace) =>
          if candidate.report.isValid then
            setting.compileStage instruction left (retry + 1) errors candidate trace
          else
            let failure :=
              Failure.regenerationRejected .compile candidate.report.errors trace.attempts
            ⟨.error (.failed failure none), trace⟩

/-- The validation stage, from the retry of a number on, with `left` retries after it; `current` is
the instruction for it. A valid candidate goes on to the compile stage. -/
def validationStage (setting : Setting ε) (instruction : String) :
    (left retry : Nat) → (errors : List String) → (current : String) → Trace → Run ε
  | left, retry, errors, current, trace =>
    match setting.candidate current trace with
    | (.error error, trace) => ⟨.error (.generator error), trace⟩
    | (.ok candidate, trace) =>
      if candidate.report.isValid then
        setting.compileStage instruction setting.config.compileCap 0 [] candidate trace
      else
        let last := candidate.report.errors
        let errors := errors ++ last
        match left with
        | 0 =>
          let failure := Failure.exhausted .validation retry last (some errors) trace.attempts
          ⟨.error (.failed failure none), trace⟩
        | left + 1 =>
          let next := setting.config.feedback ⟨.validation, retry + 1, instruction, last⟩
          setting.validationStage instruction left (retry + 1) errors next trace

/-- A whole run. -/
def run (setting : Setting ε) : Run ε :=
  match setting.request.compose with
  | .error error => ⟨.error (.request error), .empty⟩
  | .ok instruction =>
    setting.validationStage instruction setting.config.validationCap 0 [] instruction .empty

end Setting

end ComponentGate.Healing
