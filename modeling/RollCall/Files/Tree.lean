import RollCall.Files.Disk
import RollCall.Text.Dictionary

/-!
# RollCall.Files.Tree — files held in memory

A tree is a file or a folder of named trees. Paths are looked up from a folder downwards, which
stands for the working directory; what lies above it or at the top of all directories is a folder
with nothing in it.
-/

namespace RollCall

/-- A file, or a folder with what it holds by name. -/
inductive FileTree where
  | file (contents : ByteArray)
  | folder (entries : List (String × FileTree))

namespace FileTree

/-- A folder with nothing in it. -/
def bare : FileTree := .folder []

/-- The entries of a folder; a file has none. -/
def entries : FileTree → List (String × FileTree)
  | .file _ => []
  | .folder entries => entries

/-- Whether a tree is a file. -/
def isFile : FileTree → Bool
  | .file _ => true
  | .folder _ => false

/-- The way that names describe, given the way up to them in reverse: a name that stays in place is
left out, and two dots take back the name before them. -/
def settle : List String → List String → List String
  | back, [] => back.reverse
  | back, name :: names =>
    if name.isEmpty || name == "." then settle back names
    else if name == ".." then settle (back.drop 1) names
    else settle (name :: back) names

/-- Puts a tree under a way of names, with folders on the way. What stood there before is replaced;
a file on the way becomes a folder. -/
def put : List String → FileTree → FileTree → FileTree
  | [], new, _ => new
  | name :: names, new, tree =>
    let inner := (Dictionary.get? name tree.entries).getD bare
    .folder (Dictionary.set name (put names new inner) tree.entries)

/-- The tree that holds a list of files and folders by their paths. -/
def ofList (items : List (String × FileTree)) : FileTree :=
  items.foldl (fun tree (path, item) => put (settle [] (Path.steps path)) item tree) bare

/-- The number of bytes that a name can have. -/
def maxName : Nat := 255

/-- The number of bytes that a path can have. -/
def maxPath : Nat := 4095

/-- Follows the names of a path, given the folders that were left behind, innermost first. Only a
folder can be left by any name, the empty name and the two dots included. -/
def follow : List FileTree → FileTree → List String → Except ReadFault FileTree
  | _, tree, [] => .ok tree
  | _, .file _, _ :: _ => .error .notADirectory
  | behind, .folder entries, name :: names =>
    if name.isEmpty || name == "." then follow behind (.folder entries) names
    else if name == ".." then follow (behind.drop 1) (behind.head?.getD bare) names
    else if maxName < name.utf8ByteSize then .error .tooLong
    else
      match Dictionary.get? name entries with
      | some inner => follow (.folder entries :: behind) inner names
      | none => .error .notFound

/-- What a path leads to. -/
def find (tree : FileTree) (path : String) : Except ReadFault FileTree :=
  if path.isEmpty then .error .notFound
  else if maxPath < path.utf8ByteSize then .error .tooLong
  else if Path.isAbsolute path then follow [] bare (Path.steps path)
  else follow [] tree (Path.steps path)

/-- A tree as a disk. -/
def disk (tree : FileTree) : Disk Id where
  list path :=
    match tree.find path with
    | .error fault => .error fault
    | .ok (.file _) => .error .notADirectory
    | .ok (.folder entries) => .ok (entries.map fun (name, inner) => ⟨name, inner.isFile⟩)
  read path :=
    match tree.find path with
    | .error fault => .error fault
    | .ok (.file contents) => .ok contents
    | .ok (.folder _) => .error .isADirectory

end FileTree

end RollCall
