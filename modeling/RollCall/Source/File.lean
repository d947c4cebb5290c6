import RollCall.Source.Fault
import RollCall.Source.Interface
import RollCall.Source.Reading

/-!
# RollCall.Source.File — the package name and the type declarations of a source file

Of a file the package clause and the type declarations are of interest, the latter wherever they
stand, also inside functions.
-/

namespace RollCall.Source

/-- A declared name with its type. A type that is written as an interface has its elements too. -/
structure Spec where
  name : String
  /-- Whether the name is an alias, declared with an equals sign. -/
  aliased : Bool
  type : GoType
  elements : Option (List Element)

/-- What a source file declares, and its faults. -/
structure File where
  package : Option String
  specs : List Spec
  faults : List Fault

/-- The name of the first package clause outside of declarations. -/
def packageName? (root : Outline) : Option String :=
  (root.children.find? fun c => c.kind == .packageClause).bind fun clause =>
    (clause.children.find? fun c => c.kind == .packageName).map Outline.string

/-- The declared name and type of a node. -/
def spec? (o : Outline) : Option Spec := do
  let name ← o.children.find? fun c => c.kind == .typeName
  let type ← o.child? .type
  let elements :=
    if type.kind == .interfaceType then some (interfaceElements type) else none
  pure ⟨name.string, o.kind == .typeAlias, typeOf type, elements⟩

/-- Whether a node declares a type. -/
def isSpec (kind : Kind) : Bool := kind == .typeSpec || kind == .typeAlias

namespace File

/-- What a file with the given outline declares. -/
def ofOutline (root : Outline) : File where
  package := packageName? root
  specs := (root.select isSpec []).filterMap spec?
  faults := Fault.ofOutline root

/-- Reads a source file. -/
def ofSource (source : String) : File := ofOutline (Outline.ofSource source.toList)

end File

end RollCall.Source
