import RollCall.Text.Blank

/-!
# RollCall.Files.Path — paths as text

A path is kept as it was written, because messages show it so. `join` puts one path under another,
and `steps` gives the names that are followed one after the other when the path is looked up.
-/

namespace RollCall.Path

/-- Whether a path starts at the top of all directories. -/
def isAbsolute (path : String) : Bool := path.toList.head? == some '/'

/-- A path under a directory: an absolute one stands for itself, and a slash comes between the two
unless the directory already ends in one. -/
def join (directory path : String) : String :=
  if isAbsolute path then path
  else if directory.isEmpty || directory.toList.getLast? == some '/' then directory ++ path
  else directory ++ "/" ++ path

/-- The names between the slashes of a path, in order. The name after a slash at the end is
empty. -/
def steps (path : String) : List String := (Text.pieces (· == '/') path.toList).map String.ofList

/-- Whether a file name ends in an extension, with something in front of it. -/
def hasExtension (extension name : String) : Bool :=
  let lead := ('.' :: extension.toList).reverse
  match Text.afterLead? lead name.toList.reverse with
  | some stem => !stem.isEmpty
  | none => false

end RollCall.Path
