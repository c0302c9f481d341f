import ComponentGate.Json.Value
import ComponentGate.Number.Shortest
import ComponentGate.Text.Quoted

/-!
Values as messages show them: texts between quotes, numbers in their shortest form, and the words
`None`, `True` and `False`.
-/

namespace ComponentGate.Json

mutual

/-- A value inside another one, or after a word of a message. -/
def shown : Json → String
  | .null => "None"
  | .bool value => if value then "True" else "False"
  | .integer value => toString value
  | .binary value => value.toText
  | .string value => Text.quoted value
  | .array items => "[" ++ ", ".intercalate (shownItems items) ++ "]"
  | .object entries => "\x7b" ++ ", ".intercalate (shownEntries entries) ++ "\x7d"

def shownItems : List Json → List String
  | [] => []
  | item :: rest => shown item :: shownItems rest

def shownEntries : List (String × Json) → List String
  | [] => []
  | (key, value) :: rest => (Text.quoted key ++ ": " ++ shown value) :: shownEntries rest

end

/-- A value by itself; a text needs no quotes there. -/
def shownAlone : Json → String
  | .string value => value
  | value => value.shown

/-- The name of a value's type. -/
def typeName : Json → String
  | .null => "NoneType"
  | .bool _ => "bool"
  | .integer _ => "int"
  | .binary _ => "float"
  | .string _ => "str"
  | .array _ => "list"
  | .object _ => "dict"

end ComponentGate.Json
