/-!
Prompts that ask for another attempt after a rejected one. Each holds the instruction, the errors one
a line, and a checklist.
-/

namespace ComponentGate.Prompt

def validationTitle : String := "PREVIOUS ATTEMPT FAILED WITH THESE ERRORS:"

def compileTitle : String := "PREVIOUS ATTEMPT FAILED TO COMPILE WITH THIS ERROR:"

def joinLines (lines : List String) : String := "\n".intercalate lines

def validationChecklist : String :=
  joinLines
    ["Fix these errors. In particular:",
      "- Use only the provided utilities for data access, never fetch()",
      "- Use only relative imports, project aliases and allowed packages",
      "- Keep all variables and helpers inside the exported component",
      "- Give elements rendered from arrays a unique key",
      "- Use React event handlers such as onClick=\x7bhandler\x7d"]

def compileChecklist : String :=
  joinLines
    ["Fix the compilation error. Check in particular that:",
      "- Only imports and exports appear at the top level, besides the final render line",
      "- Every JSX tag is closed and every brace is balanced",
      "- No TypeScript syntax is used unless it was explicitly allowed"]

def minimalChecklist : String :=
  joinLines
    ["Use the simplest possible approach:",
      "- Only React and basic HTML elements",
      "- No external utilities unless absolutely necessary",
      "- Inline styles only",
      "- All variables inside the component",
      "- Basic accessibility attributes"]

/-- Errors as a list, one a line. -/
def bullets (messages : List String) : String := joinLines (messages.map ("- " ++ ·))

def validationFix (instruction : String) (errors : List String) : String :=
  s!"{instruction}\n\n{validationTitle}\n{bullets errors}\n\n{validationChecklist}"

def compileFix (instruction : String) (errors : List String) : String :=
  s!"{instruction}\n\n{compileTitle}\n{bullets errors}\n\n{compileChecklist}"

/-- Asks for the simplest component that would do. -/
def minimal (instruction : String) (errors : List String) : String :=
  s!"Create a minimal version of: {instruction}\n\n" ++
    s!"Earlier attempts failed with:\n{bullets errors}\n\n{minimalChecklist}"

end ComponentGate.Prompt
