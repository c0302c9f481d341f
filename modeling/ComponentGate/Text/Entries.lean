/-!
Entries under keys, in the order in which the keys first came. A later value under a known key
replaces the earlier one in its place.
-/

namespace ComponentGate.Entries

def contains (entries : List (String × α)) (key : String) : Bool := entries.any (·.1 == key)

def get? (entries : List (String × α)) (key : String) : Option α :=
  (entries.find? (·.1 == key)).map (·.2)

def put (entries : List (String × α)) (key : String) (value : α) : List (String × α) :=
  if contains entries key then
    entries.map fun entry => if entry.1 == key then (key, value) else entry
  else entries ++ [(key, value)]

/-- The entries that a list of pairs leaves behind, put in one after the other. -/
def ofPairs (pairs : List (String × α)) : List (String × α) :=
  pairs.foldl (fun entries pair => put entries pair.1 pair.2) []

end ComponentGate.Entries
