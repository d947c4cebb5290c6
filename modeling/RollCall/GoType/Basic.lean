/-!
# RollCall.GoType.Basic — the type expressions of Go

The model keeps the shape of a type expression as far as an example value depends on it. The
direction of a channel and the parentheses around a type are not kept. Function types, generic
instantiations and whatever else has no shape here are kept by their text.
-/

namespace RollCall

/-- A field of a struct. An embedded field is named after its type. -/
structure Field (α : Type u) where
  name : String
  type : α
  embedded : Bool
deriving DecidableEq, Repr

/-- A type expression of Go. -/
inductive GoType where
  /-- A type name, with the package in front of the point if there is one. -/
  | named (package : Option String) (name : String)
  | pointer (elem : GoType)
  | slice (elem : GoType)
  /-- An array; the length is unknown unless it is written as a plain decimal number. -/
  | array (length : Option Nat) (elem : GoType)
  | chan (elem : GoType)
  | map (key value : GoType)
  | struct (fields : List (Field GoType))
  /-- An interface type, whatever its methods. -/
  | interface
  | func (text : String)
  | other (text : String)
deriving Inhabited, Repr

namespace GoType

/-- A type name of the package itself. -/
def plain (name : String) : GoType := .named none name

/-- Whether a type expression is a struct. -/
def isStruct : GoType → Bool
  | .struct _ => true
  | _ => false

end GoType

end RollCall
