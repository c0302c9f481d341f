import ComponentGate.Number.Binary64
import ComponentGate.Text.Entries

/-!
Values of the JSON format. An object keeps its entries in the order in which the keys first came.
-/

namespace ComponentGate

inductive Json where
  | null
  | bool (value : Bool)
  | integer (value : Int)
  | binary (value : Binary64)
  | string (value : String)
  | array (items : List Json)
  | object (entries : List (String × Json))
  deriving Repr, Inhabited

namespace Json

def get? (value : Json) (key : String) : Option Json :=
  match value with
  | .object entries => Entries.get? entries key
  | _ => none

end Json

end ComponentGate
