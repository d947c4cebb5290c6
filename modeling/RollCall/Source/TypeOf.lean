import RollCall.GoType.Spelling
import RollCall.Source.Outline
import RollCall.Text.Blank
import RollCall.Text.Numeral

/-!
# RollCall.Source.TypeOf — type expressions from their outlines

`typeOf` turns the outline of a type into a type expression. Whatever has no shape of its own is
kept by its source text, with every run of blanks as one space. `paramTypes` gives one type for each
parameter of a list.
-/

namespace RollCall.Source

open Outline

/-- The package and the name of a qualified name, from its source text: what stands before and after
the first point, trimmed. -/
def qualifiedParts? (text : List Char) : Option (String × String) :=
  (Text.cutAt? (· == '.') text).map fun (package, name) =>
    (String.ofList (Text.trim package), String.ofList (Text.trim name))

/-- What the name of an embedded field is: the name of its type, or the spelling of a type that is
no name. -/
def embeddedName : GoType → String
  | .named _ name => name
  | t => t.spelling

/-- A text with every run of blanks as one space. -/
def collapsed (text : List Char) : String := String.ofList (Text.collapse text)

/-- Whether a node stands around a type or between types without being one. -/
def isPunctuation (kind : Kind) : Bool :=
  kind == .other "*" || kind == .other "(" || kind == .other ")" || kind == .comment

/-- The fields of one field declaration with the given type: one for each name, or an embedded one,
which may be a pointer. -/
def declaredFields (parts : List Outline) (type : GoType) : List (Field GoType) :=
  match parts.filter fun c => c.kind == .fieldName with
  | [] =>
    let pointer := parts.any fun c => c.kind == .other "*"
    [⟨embeddedName type, if pointer then .pointer type else type, true⟩]
  | names => names.map fun name => ⟨name.string, type, false⟩

mutual

/-- The type expression of an outline. -/
def typeOf : Outline → GoType
  | .node kind _ _ start stop children =>
    let text := start.textTo stop
    let verbatim : GoType := .other (String.ofList text)
    match kind with
    | .typeName => if text == "any".toList then .interface else .named none (String.ofList text)
    | .qualifiedType =>
      match qualifiedParts? text with
      | some (package, name) => .named (some package) name
      | none => .named none (String.ofList text)
    | .pointerType => ((innerType children).map GoType.pointer).getD verbatim
    | .bracketedType => (innerType children).getD verbatim
    | .sliceType => ((typeAt .element children).map GoType.slice).getD verbatim
    | .arrayType =>
      let length := (children.find? fun c => c.role == some .length).bind fun c =>
        Text.wholeNumber? (Text.trim c.text)
      ((typeAt .element children).map (GoType.array length)).getD verbatim
    | .countedArrayType => ((typeAt .element children).map (GoType.array none)).getD verbatim
    | .channelType => ((typeAt .value children).map GoType.chan).getD verbatim
    | .mapType =>
      match typeAt .key children, typeAt .value children with
      | some key, some value => .map key value
      | _, _ => verbatim
    | .structType => .struct (structFields children)
    | .interfaceType => .interface
    | .functionType => .func (collapsed text)
    | _ => .other (collapsed text)

/-- The type of the first child that is no punctuation. -/
def innerType : List Outline → Option GoType
  | [] => none
  | o :: os => if isPunctuation o.kind then innerType os else some (typeOf o)

/-- The type of the first child with a role. -/
def typeAt (role : Role) : List Outline → Option GoType
  | [] => none
  | o :: os => if o.role == some role then some (typeOf o) else typeAt role os

/-- The fields of a struct, from its children. -/
def structFields : List Outline → List (Field GoType)
  | [] => []
  | .node kind _ _ _ _ children :: os =>
    if kind == .fields then fieldsOf children else structFields os

/-- The fields of field declarations. -/
def fieldsOf : List Outline → List (Field GoType)
  | [] => []
  | .node kind _ _ _ _ children :: os =>
    let fields :=
      if kind == .field then
        ((typeAt .type children).map (declaredFields children)).getD []
      else []
    fields ++ fieldsOf os

end

/-- The types of a parameter list, one for each parameter: names share the type behind them, and a
variadic parameter is a slice. -/
def paramTypes (list : Outline) : List GoType :=
  list.children.flatMap fun param =>
    match param.kind, (param.child? .type).map typeOf with
    | .parameter, some type => repeated param type
    | .variadicParameter, some type => repeated param (.slice type)
    | _, _ => []
where
  repeated (param : Outline) (type : GoType) : List GoType :=
    let names := (param.children.filter fun c => c.kind == .name).length
    List.replicate (max names 1) type

end RollCall.Source
