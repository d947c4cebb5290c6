import RollCall.Documentation
import RollCall.Package.Load

/-!
# RollCall.Project — a project directory

A project has its settings in a file at its root and the sources of its package in a directory that
the settings name.
-/

namespace RollCall

/-- Why there is no documentation of a project. -/
inductive ProjectError where
  /-- The package cannot be loaded from the directory. -/
  | load (directory : String) (error : LoadError)
  | documentation (error : DocumentationError)
deriving DecidableEq, Repr

/-- The wording of an error with its reasons. -/
def ProjectError.message : ProjectError → String
  | .load directory error => "failed to parse Go package in " ++ directory ++ ": " ++ error.chain
  | .documentation error => error.message

/-- Something worth a word that was met while a project was documented. -/
inductive Notice where
  /-- A source has a fault. -/
  | fault (diagnostic : Diagnostic)
  | warning (warning : Warning)
deriving DecidableEq, Repr

namespace Project

variable {m : Type → Type} [Monad m]

/-- The name of the settings file. -/
def settingsFile : String := "schemagen.toml"

/-- The settings file of a project. What is there and no file counts as absent. -/
def settingsDocument (disk : Disk m) (root : String) : m Settings.Document := do
  match ← disk.read (Path.join root settingsFile) with
  | .error _ => pure .absent
  | .ok contents =>
    match textOf contents with
    | .ok text => pure (.text text)
    | .error _ => pure .garbled

/-- The settings of a project under the variables of the environment. -/
def settings (disk : Disk m) (root : String) (environment : List (String × String)) :
    m (Except SettingsError Settings) := do
  let document ← settingsDocument disk root
  pure (Settings.load document environment)

/-- The directory of a project's sources. -/
def sourceDirectory (root : String) (settings : Settings) : String :=
  Path.join root settings.target.directory

/-- What is noticed about a package that is loaded. -/
def notices (p : Package) (interface : String) (examples : Bool) : List Notice :=
  p.diagnostics.map .fault ++ (Documentation.warnings p interface examples).map .warning

/-- The documentation of a project, with what was noticed, also where it failed. -/
def document (disk : Disk m) (root : String) (settings : Settings) (examples : Bool) :
    m (Except ProjectError Documentation × List Notice) := do
  let directory := sourceDirectory root settings
  match ← Package.load disk directory settings.target.package with
  | .error e => pure (.error (.load directory e), [])
  | .ok p =>
    pure ((Documentation.ofPackage p settings examples).mapError .documentation,
      notices p settings.target.interface examples)

end Project

end RollCall
