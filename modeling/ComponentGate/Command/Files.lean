import ComponentGate.Request.Path
import ComponentGate.Text.Decoding

/-!
The files that a command can see, and their text.
-/

namespace ComponentGate.Command

/-- What stands under a path. -/
inductive Entry where
  | absent
  | directory
  | file (bytes : ByteArray)

/-- What a command finds under each path. -/
abbrev Files := String → Entry

namespace Files

/-- Whether a path leads to a directory whatever the files are: here, upwards, or to the root. -/
def leadsOut (path : String) : Bool :=
  (Text.splitAt '/' path.toList).all fun step => step = [] || step = ['.'] || step = ['.', '.']

/-- Whether a path asks for a directory by a slash or a dot at its end. -/
def asksForDirectory (path : String) : Bool :=
  match (Text.splitAt '/' path.toList).reverse with
  | last :: _ :: _ => last = [] || last = ['.']
  | _ => false

/-- Some files by their plain paths, in a directory without other ones. -/
def ofList (files : List (String × ByteArray)) : Files := fun path =>
  let plain := Request.plainPath path
  if path.isEmpty then .absent
  else if leadsOut path then .directory
  else if files.any fun file => (plain ++ "/").toList.isPrefixOf file.1.toList then .directory
  else
    match files.find? fun file => file.1 == plain with
    | some file => if asksForDirectory path then .absent else .file file.2
    | none => .absent

end Files

/-- The text of a file, with line feeds for all line ends. -/
def readText (bytes : ByteArray) : Except Text.DecodingError String :=
  (Text.decode bytes).map fun text => String.ofList (Text.withLineFeeds text.toList)

end ComponentGate.Command
