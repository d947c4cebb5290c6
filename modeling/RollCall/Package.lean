import RollCall.Comment.Index
import RollCall.MethodSet
import RollCall.Source.File

/-!
# RollCall.Package — the source files of one package

A package is made of the files whose package clause names it; all other files have no influence.
Faults in its files are kept as diagnostics and stop nothing.

A name can be looked up in two ways. The index knows every declaration and keeps the last one of a
name. `walk` looks for an interface with its methods and takes the first one of a name, aliases
apart; a declaration of that name that is no interface is passed over with a warning.
-/

namespace RollCall

open RollCall.Source

/-- A fault in a file of the package. -/
structure Diagnostic where
  file : String
  line : Nat
  message : String
deriving DecidableEq, Repr

/-- No file declares the package. -/
structure MissingPackage where
  package : String
  directory : String
deriving DecidableEq, Repr

/-- The wording of the error. -/
def MissingPackage.message (e : MissingPackage) : String :=
  "no files of package '" ++ e.package ++ "' found in " ++ e.directory

/-- A file with its path. -/
structure PackageFile where
  path : String
  file : File

/-- A package. -/
structure Package where
  files : List PackageFile

/-- A method declared directly in an interface. -/
structure WalkedMethod where
  signature : Signature
  span : Comment.Span
  comments : List Comment.Cluster

/-- An interface with its own methods and the elements it embeds. -/
structure WalkedInterface where
  name : String
  file : String
  methods : Dictionary WalkedMethod
  embedded : List Embed

namespace PackageFile

/-- The diagnostics of a file. -/
def diagnostics (f : PackageFile) : List Diagnostic :=
  f.file.faults.map fun fault => ⟨f.path, fault.line, fault.message⟩

/-- The type declarations of a file, in source order. -/
def declarations (f : PackageFile) : List Declaration :=
  f.file.specs.map fun s => ⟨s.name, s.type, s.elements.map shapeOf⟩

end PackageFile

namespace WalkedInterface

/-- An interface of the given elements; of two methods with one name the later one counts. -/
def ofElements (name file : String) (elements : List Element) : WalkedInterface where
  name := name
  file := file
  methods := Dictionary.ofList <| elements.filterMap fun e =>
    match e.kind with
    | .method s => some (s.name, ⟨s, e.span, e.comments⟩)
    | .embed _ => none
  embedded := (shapeOf elements).embedded

/-- The methods with the texts of their comments. -/
def annotated (w : WalkedInterface) : List Annotated :=
  w.methods.map fun (name, m) => (name, m.comments.map Comment.Cluster.text)

end WalkedInterface

namespace Package

/-- The package of that name among source files, in the given order. The directory is only named in
the error. -/
def ofSources (directory package : String) (sources : List (String × String)) :
    Except MissingPackage Package :=
  let all : List PackageFile := sources.map fun (path, source) => ⟨path, File.ofSource source⟩
  let files := all.filter fun f => f.file.package == some package
  if files.isEmpty then .error ⟨package, directory⟩ else .ok ⟨files⟩

/-- The diagnostics of all files. -/
def diagnostics (p : Package) : List Diagnostic := p.files.flatMap PackageFile.diagnostics

/-- The declarations of all files. -/
def declarations (p : Package) : List Declaration := p.files.flatMap PackageFile.declarations

/-- The index of all declarations. -/
def index (p : Package) : Index := Index.ofList p.declarations

/-- Looks for an interface among declared names of one file. -/
def walkSpecs (target path : String) : List Spec → Option WalkedInterface × List Warning
  | [] => (none, [])
  | s :: specs =>
    if s.aliased || s.name != target then walkSpecs target path specs
    else
      match s.elements with
      | some elements => (some (.ofElements target path elements), [])
      | none =>
        let (found, warnings) := walkSpecs target path specs
        (found, .notAnInterface path target :: warnings)

/-- Looks for an interface in one file after the other. -/
def walkFiles (target : String) : List PackageFile → Option WalkedInterface × List Warning
  | [] => (none, [])
  | f :: files =>
    match walkSpecs target f.path f.file.specs with
    | (some found, warnings) => (some found, warnings)
    | (none, warnings) =>
      let (found, more) := walkFiles target files
      (found, warnings ++ more)

/-- The first interface of that name, and the warnings of looking for it. -/
def walk (p : Package) (target : String) : Option WalkedInterface × List Warning :=
  walkFiles target p.files

end Package

end RollCall
