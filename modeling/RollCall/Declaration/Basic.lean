import RollCall.GoType.Json
import RollCall.Text.Dictionary

/-!
# RollCall.Declaration.Basic — type declarations and the shape of interfaces

A declaration gives a name to a type. When the type is written as an interface, its shape is kept as
well: the method names and the embedded elements, each in source order with repetitions. An index
holds the declarations of a package by name; of two declarations of one name the later one counts.
-/

namespace RollCall

/-- An element embedded in an interface. -/
inductive Embed where
  /-- A type name of the same package. -/
  | sibling (name : String)
  /-- A type name of another package. -/
  | foreign (package name : String)
  /-- A union, a literal or whatever else is no plain name. -/
  | term (text : String)
deriving DecidableEq, Repr

/-- The method names and embedded elements of an interface. -/
structure Shape where
  methods : List String
  embedded : List Embed
deriving DecidableEq, Repr

/-- A type declaration. -/
structure Declaration where
  name : String
  type : GoType
  shape : Option Shape

/-- Declarations by name. -/
abbrev Index := Dictionary Declaration

namespace Index

/-- Takes up a declaration, instead of an earlier one of the same name. -/
def add (index : Index) (decl : Declaration) : Index := Dictionary.set decl.name decl index

/-- The index of declarations in order. -/
def ofList (decls : List Declaration) : Index := decls.foldl add []

/-- The shape of a name that is declared as an interface. -/
def shape? (index : Index) (name : String) : Option Shape :=
  (Dictionary.get? name index).bind Declaration.shape

/-- The declared types. -/
def types (index : Index) : Dictionary GoType := Dictionary.mapValues Declaration.type index

end Index

/-! ## §B As JSON -/

/-- An embedded element as an object tagged by its kind. -/
def Embed.toJson : Embed → Json
  | .sibling name => .obj [("kind", .str "local"), ("name", .str name)]
  | .foreign package name =>
    .obj [("kind", .str "qualified"), ("name", .str name), ("package", .str package)]
  | .term text => .obj [("kind", .str "other"), ("text", .str text)]

/-- A shape as an object. -/
def Shape.toJson (shape : Shape) : Json :=
  .obj [("embedded", .arr (shape.embedded.map Embed.toJson)), ("methods", Json.texts shape.methods)]

/-- A declaration as an object. -/
def Declaration.toJson (decl : Declaration) : Json :=
  .obj [("interface", (decl.shape.map Shape.toJson).getD .null), ("name", .str decl.name),
    ("ty", decl.type.toJson)]

/-- Reads an embedded element. -/
def Embed.ofJson? (v : Json) : Option Embed := do
  let (tag, v) ← v.tagged?
  match ← tag.text? with
  | "local" => ((GoType.readOnly "name" v).bind Json.text?).map .sibling
  | "qualified" =>
    match ← v.record? ["package", "name"] with
    | [some package, some name] => do
      let package ← package.text?
      let name ← name.text?
      pure (.foreign package name)
    | _ => none
  | "other" => ((GoType.readOnly "text" v).bind Json.text?).map .term
  | _ => none

/-- Reads a shape. -/
def Shape.ofJson? (v : Json) : Option Shape := do
  match ← v.record? ["methods", "embedded"] with
  | [some methods, some embedded] => do
    let methods ← methods.items?
    let methods ← methods.mapM Json.text?
    let embedded ← embedded.items?
    let embedded ← embedded.mapM Embed.ofJson?
    pure ⟨methods, embedded⟩
  | _ => none

/-- Reads a declaration. The shape may be null, or left out of an object. -/
def Declaration.ofJson? (v : Json) : Option Declaration := do
  match ← v.record? ["name", "ty", "interface"] with
  | [some name, some type, shape] => do
    let name ← name.text?
    let type ← GoType.ofJson? type
    let shape ←
      match shape with
      | none => some none
      | some .null => some none
      | some shape => (Shape.ofJson? shape).map some
    pure ⟨name, type, shape⟩
  | _ => none

end RollCall
