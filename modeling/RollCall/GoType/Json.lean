import RollCall.GoType.Basic
import RollCall.Json.Basic

/-!
# RollCall.GoType.Json — types as JSON objects tagged by their kind

Every type is written as an object whose member `kind` names its constructor. The optional package
and length are always written, as null where there is none; a reader may find them left out. Members
that are not part of the format are ignored, all others are required. A reader takes an array as
well, of the kind and then all values in order.
-/

namespace RollCall.GoType

mutual

/-- A type as a tagged object. -/
def toJson : GoType → Json
  | .named package name =>
    .obj [("kind", .str "named"), ("name", .str name), ("package", Json.ofText? package)]
  | .pointer elem => .obj [("elem", elem.toJson), ("kind", .str "pointer")]
  | .slice elem => .obj [("elem", elem.toJson), ("kind", .str "slice")]
  | .array length elem =>
    .obj [("elem", elem.toJson), ("kind", .str "array"),
      ("len", match length with
        | none => .null
        | some n => .int n)]
  | .chan elem => .obj [("elem", elem.toJson), ("kind", .str "chan")]
  | .map key value =>
    .obj [("key", key.toJson), ("kind", .str "map"), ("value", value.toJson)]
  | .struct fields => .obj [("fields", .arr (fieldsToJson fields)), ("kind", .str "struct")]
  | .interface => .obj [("kind", .str "interface")]
  | .func text => .obj [("kind", .str "func"), ("text", .str text)]
  | .other text => .obj [("kind", .str "other"), ("text", .str text)]

/-- A field as an object. -/
def fieldToJson : Field GoType → Json
  | ⟨name, type, embedded⟩ =>
    .obj [("embedded", .bool embedded), ("name", .str name), ("ty", type.toJson)]

/-- Fields as objects. -/
def fieldsToJson : List (Field GoType) → List Json
  | [] => []
  | f :: fs => fieldToJson f :: fieldsToJson fs

end

/-- A package: a text, null, or left out. -/
def readPackage : Option Json → Option (Option String)
  | none => some none
  | some .null => some none
  | some (.str s) => some (some s)
  | some _ => none

/-- A length: an integer that fits 64 bits, null, or left out. -/
def readLength : Option Json → Option (Option Nat)
  | none => some none
  | some .null => some none
  | some (.int (.ofNat n)) => if n < Nat.pow 2 64 then some (some n) else none
  | some _ => none

/-- The kinds in order. -/
def kinds : List String :=
  ["named", "pointer", "slice", "array", "chan", "map", "struct", "interface", "func", "other"]

/-- The kind that a tag names. Inside of another type it may be given by its place. -/
def readKind (inner : Bool) : Json → Option String
  | .str kind => some kind
  | .int (.ofNat n) => if inner then kinds[n]? else none
  | _ => none

/-- The value of a record with a single one. -/
def readOnly (name : String) (v : Json) : Option Json := do
  match ← v.record? [name] with
  | [value] => value
  | _ => none

mutual

/-- Reads a tagged record. The first argument bounds the nesting; `inner` says whether the type is
part of another one. -/
def readWithin : Nat → Bool → Json → Option GoType
  | 0, _, _ => none
  | fuel + 1, inner, v => do
    let (tag, v) ← v.tagged?
    let kind ← readKind inner tag
    match kind with
    | "named" =>
      match ← v.record? ["package", "name"] with
      | [package, name] => do
        let package ← readPackage package
        let name ← name.bind Json.text?
        pure (.named package name)
      | _ => none
    | "pointer" => do
      let elem ← readOnly "elem" v
      (readWithin fuel true elem).map .pointer
    | "slice" => do
      let elem ← readOnly "elem" v
      (readWithin fuel true elem).map .slice
    | "array" =>
      match ← v.record? ["len", "elem"] with
      | [length, some elem] => do
        let length ← readLength length
        (readWithin fuel true elem).map (.array length)
      | _ => none
    | "chan" => do
      let elem ← readOnly "elem" v
      (readWithin fuel true elem).map .chan
    | "map" =>
      match ← v.record? ["key", "value"] with
      | [some key, some value] => do
        let key ← readWithin fuel true key
        let value ← readWithin fuel true value
        pure (.map key value)
      | _ => none
    | "struct" => do
      let fields ← (readOnly "fields" v).bind Json.items?
      (readFieldsWithin fuel fields).map .struct
    | "interface" => (v.record? []).map fun _ => .interface
    | "func" => ((readOnly "text" v).bind Json.text?).map .func
    | "other" => ((readOnly "text" v).bind Json.text?).map .other
    | _ => none

/-- Reads fields. -/
def readFieldsWithin : Nat → List Json → Option (List (Field GoType))
  | 0, _ => none
  | _ + 1, [] => some []
  | fuel + 1, v :: vs => do
    match ← v.record? ["name", "ty", "embedded"] with
    | [some name, some type, some embedded] => do
      let name ← name.text?
      let type ← readWithin fuel true type
      let embedded ← embedded.bool?
      let rest ← readFieldsWithin fuel vs
      pure (⟨name, type, embedded⟩ :: rest)
    | _ => none

end

mutual

/-- The number of nodes of a JSON value, which bounds the nesting of what it holds. -/
def weight : Json → Nat
  | .arr items => weightItems items + 1
  | .obj members => weightMembers members + 1
  | _ => 1

/-- The nodes of the items of an array. -/
def weightItems : List Json → Nat
  | [] => 1
  | v :: vs => weight v + weightItems vs + 1

/-- The nodes of the members of an object. -/
def weightMembers : List (String × Json) → Nat
  | [] => 1
  | (_, v) :: ms => weight v + weightMembers ms + 1

end

/-- Reads a type from its tagged record. -/
def ofJson? (v : Json) : Option GoType := readWithin (weight v) false v

end RollCall.GoType
