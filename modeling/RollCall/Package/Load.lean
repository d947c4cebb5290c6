import RollCall.Files.Disk
import RollCall.Package

/-!
# RollCall.Package.Load — reading a package from a directory

The sources of a package are the regular files of its directory that have the extension of source
files, in the order of their names. One that cannot be read ends the loading, also if it belongs to
another package.
-/

namespace RollCall

/-- Why a package is not loaded. -/
inductive LoadError where
  /-- The directory or one of its sources cannot be read. -/
  | unreadable (path : String) (fault : ReadFault)
  /-- No source belongs to the package. -/
  | missing (error : MissingPackage)
deriving DecidableEq, Repr

/-- The wording of an error. -/
def LoadError.message : LoadError → String
  | .unreadable path fault => "failed to read " ++ path ++ ": " ++ fault.message
  | .missing error => error.message

/-- The error with the reason below it, where it has one. -/
def LoadError.chain (e : LoadError) : String :=
  match e with
  | .unreadable _ fault => e.message ++ ": " ++ fault.message
  | .missing _ => e.message

namespace Package

/-- The extension of source files. -/
def sourceExtension : String := "go"

/-- The names of the sources among the entries of a directory, ascending. -/
def sourceNames (entries : List DirectoryEntry) : List String :=
  ((entries.filter fun e => e.isFile && Path.hasExtension sourceExtension e.name).map
    DirectoryEntry.name).mergeSort fun a b => decide (a ≤ b)

variable {m : Type → Type} [Monad m]

/-- Reads sources by path, up to the first that cannot be read. -/
def readSources (disk : Disk m) : List String → m (Except LoadError (List (String × String)))
  | [] => pure (.ok [])
  | path :: paths => do
    let contents ← disk.read path
    match contents.bind textOf with
    | .error fault => pure (.error (.unreadable path fault))
    | .ok text =>
      let rest ← readSources disk paths
      pure (rest.map fun sources => (path, text) :: sources)

/-- The package of that name in a directory. -/
def load (disk : Disk m) (directory package : String) : m (Except LoadError Package) := do
  match ← disk.list directory with
  | .error fault => pure (.error (.unreadable directory fault))
  | .ok entries =>
    match ← readSources disk ((sourceNames entries).map (Path.join directory)) with
    | .error e => pure (.error e)
    | .ok sources => pure ((ofSources directory package sources).mapError .missing)

end Package

end RollCall
