import ComponentGate.Text.Quoted
import ComponentGate.Text.Similarity

/-!
Reading a command line: options anywhere before a double dash, and operands. What cannot be read is a
usage error, which is shown with the usage of the command that it is about.
-/

namespace ComponentGate.Command

inductive CommandName where
  | check | fix
  deriving DecidableEq, Repr, Inhabited

def CommandName.text : CommandName → String
  | .check => "check"
  | .fix => "fix"

def CommandName.all : List CommandName := [.check, .fix]

/-- What is wrong with a command line. -/
inductive Problem where
  | noSuchOption (name : String) (proposals : List String)
  | noSuchCommand (name : String) (proposals : List String)
  | unwantedValue (option : String)
  | missingValue (option : String)
  | missingCommand
  | missingPath
  | absentFile (parameter path : String)
  | directory (parameter path : String)
  | extraOperands (operands : List String)
  deriving DecidableEq, Repr

/-- A message, with words that may have been meant. -/
def withProposals (message : String) (proposals : List String) : String :=
  match proposals with
  | [] => message
  | [one] => s!"{message} Did you mean {Text.quoted one}?"
  | _ =>
    let listed := ", ".intercalate (proposals.map Text.quoted)
    s!"{message} (Did you mean one of: {listed}?)"

def Problem.message : Problem → String
  | .noSuchOption name proposals => withProposals s!"No such option {Text.quoted name}." proposals
  | .noSuchCommand name proposals => withProposals s!"No such command {Text.quoted name}." proposals
  | .unwantedValue option => s!"Option {Text.quoted option} does not take a value."
  | .missingValue option => s!"Option {Text.quoted option} requires an argument."
  | .missingCommand => "Missing command."
  | .missingPath => "Missing argument 'PATH'."
  | .absentFile parameter path =>
    s!"Invalid value for '{parameter}': File {Text.quoted path} does not exist."
  | .directory parameter path =>
    s!"Invalid value for '{parameter}': File {Text.quoted path} is a directory."
  | .extraOperands operands =>
    let noun := if operands.length = 1 then "argument" else "arguments"
    let listed := " ".intercalate operands
    s!"Got unexpected extra {noun} ({listed})"

/-- A problem, and the command whose arguments have it. -/
structure UsageError where
  command : Option CommandName
  problem : Problem
  deriving DecidableEq, Repr

def programName : String := "cli"

/-- The words that call a command. -/
def callOf : Option CommandName → String
  | some name => s!"{programName} {name.text}"
  | none => programName

/-- How a command is used. -/
def usageOf : Option CommandName → String
  | some name => s!"Usage: {callOf (some name)} [OPTIONS] PATH"
  | none => s!"Usage: {programName} [OPTIONS] COMMAND [ARGS]..."

def UsageError.message (error : UsageError) : String :=
  s!"{usageOf error.command}\nTry '{callOf error.command} --help' for help.\n\n" ++
    s!"Error: {error.problem.message}\n"

/-- An option: its long name, perhaps a letter, and whether a value follows it. -/
structure OptionRule where
  long : String
  short : Option Char
  takesValue : Bool
  deriving DecidableEq, Repr

def flag (long : String) (short : Option Char) : OptionRule := ⟨long, short, false⟩

def helpOption : OptionRule := flag "--help" none

def generalOptions : List OptionRule :=
  [flag "--verbose" (some 'v'), flag "--version" none, helpOption]

def optionsOf : CommandName → List OptionRule
  | .check => [⟨"--policy", none, true⟩, ⟨"--allow", none, true⟩, flag "--json" none, helpOption]
  | .fix =>
    [flag "--write" (some 'w'), flag "--check" none, flag "--strip-types" none, helpOption]

/-- An option as it was given. -/
structure Given where
  long : String
  value : String
  deriving DecidableEq, Repr

/-- What was read: the options, the operands, and what stands behind them unread. -/
structure Reading where
  options : List Given
  operands : List String
  deriving DecidableEq, Repr

def Reading.empty : Reading := ⟨[], []⟩

/-- The part of an argument before an equals sign, and the value behind it. -/
def splitValue (argument : String) : String × Option String :=
  let name := argument.toList.takeWhile (· ≠ '=')
  match argument.toList.drop name.length with
  | _ :: value => (String.ofList name, some (String.ofList value))
  | [] => (argument, none)

/-- The options that letters behind a single dash stand for. -/
def readLetters (rules : List OptionRule) : List Char → Except Problem (List Given)
  | [] => .ok []
  | c :: rest =>
    match rules.find? fun rule => rule.short == some c with
    | some rule => do
      let more ← readLetters rules rest
      return ⟨rule.long, ""⟩ :: more
    | none => .error (.noSuchOption (String.ofList ['-', c]) [])

/-- Whether an argument is an option: a dash, and more behind it. -/
def isOption (argument : String) : Bool :=
  match argument.toList with
  | '-' :: _ :: _ => true
  | _ => false

def isLongOption (argument : String) : Bool := "--".toList.isPrefixOf argument.toList

/-- Reads arguments. Where options may not stand among operands, all from the first operand on are
operands. -/
def readArguments (rules : List OptionRule) (amongOperands : Bool) (done : Reading) :
    List String → Except Problem Reading
  | [] => .ok done
  | argument :: rest =>
    let (name, value?) := splitValue argument
    if argument = "--" then .ok { done with operands := done.operands ++ rest }
    else if !isOption argument then
      if amongOperands then
        readArguments rules amongOperands
          { done with operands := done.operands ++ [argument] } rest
      else .ok { done with operands := done.operands ++ argument :: rest }
    else
      match rules.find? fun rule => rule.long == name with
      | some rule =>
        if rule.takesValue then
          match value?.orElse fun _ => rest.head? with
          | some value =>
            readArguments rules amongOperands
              { done with options := done.options ++ [⟨rule.long, value⟩] }
              (if value?.isSome then rest else rest.drop 1)
          | none => .error (.missingValue rule.long)
        else if value?.isSome then .error (.unwantedValue rule.long)
        else
          readArguments rules amongOperands
            { done with options := done.options ++ [⟨rule.long, ""⟩] } rest
      | none =>
        if isLongOption argument then
          .error (.noSuchOption name (Text.alike name (rules.map OptionRule.long)))
        else
          match readLetters rules (argument.toList.drop 1) with
          | .ok letters =>
            readArguments rules amongOperands
              { done with options := done.options ++ letters } rest
          | .error problem => .error problem
termination_by arguments => arguments.length
decreasing_by all_goals grind

namespace Reading

def has (reading : Reading) (long : String) : Bool :=
  reading.options.any fun given => given.long == long

def values (reading : Reading) (long : String) : List String :=
  (reading.options.filter fun given => given.long == long).map Given.value

end Reading

/-- What a command line asks for. -/
inductive Invocation where
  | version
  | help (command : Option CommandName)
  /-- Nothing was asked for. -/
  | idle
  | command (name : CommandName) (reading : Reading)
  deriving DecidableEq, Repr

/-- Reads a whole command line. -/
def Invocation.ofArguments (arguments : List String) : Except UsageError Invocation :=
  if arguments.isEmpty then .ok .idle
  else
    match readArguments generalOptions false .empty arguments with
    | .error problem => .error ⟨none, problem⟩
    | .ok general =>
      if general.has "--version" then .ok .version
      else if general.has "--help" then .ok (.help none)
      else
        match general.operands with
        | [] => .error ⟨none, .missingCommand⟩
        | word :: rest =>
          match CommandName.all.find? fun name => name.text == word with
          | none =>
            .error ⟨none, .noSuchCommand word (Text.alike word (CommandName.all.map (·.text)))⟩
          | some name =>
            match readArguments (optionsOf name) true .empty rest with
            | .error problem => .error ⟨some name, problem⟩
            | .ok reading =>
              if reading.has "--help" then .ok (.help (some name))
              else .ok (.command name reading)

/-- The paths that a command line names. -/
def Invocation.paths : Invocation → List String
  | .command _ reading => reading.values "--policy" ++ reading.operands
  | _ => []

end ComponentGate.Command
