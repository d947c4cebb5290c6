import RollCall.Number.Binary64
import RollCall.Text.Dictionary

/-!
# RollCall.Json.Basic — JSON values

A number is either an integer, kept exactly, or a binary floating point number; the two are told
apart because they are written differently. The members of an object stand in the order of their
names, so two objects with the same members are the same value.
-/

namespace RollCall

/-- A JSON value. -/
inductive Json where
  | null
  | bool (value : Bool)
  | int (value : Int)
  | float (value : Binary64)
  | str (value : String)
  | arr (items : List Json)
  | obj (members : List (String × Json))
deriving Inhabited

namespace Json

/-- The object with the given members, a later one instead of an earlier one of the same name. -/
def object (members : List (String × Json)) : Json := .obj (Dictionary.ofList members)

/-- The empty object. -/
def empty : Json := .obj []

/-- The array of the given texts. -/
def texts (items : List String) : Json := .arr (items.map .str)

/-- A text, or null where there is none. -/
def ofText? : Option String → Json
  | none => .null
  | some s => .str s

/-- The member of an object under a name. -/
def get? (name : String) : Json → Option Json
  | .obj members => Dictionary.get? name members
  | _ => none

/-- The text that a value is. -/
def text? : Json → Option String
  | .str s => some s
  | _ => none

/-- The items of the array that a value is. -/
def items? : Json → Option (List Json)
  | .arr items => some items
  | _ => none

/-- The truth value that a value is. -/
def bool? : Json → Option Bool
  | .bool b => some b
  | _ => none

/-- The members of the object that a value is. -/
def members? : Json → Option (List (String × Json))
  | .obj members => some members
  | _ => none

/-- The values of a record with the given names. An object has them by name, and not necessarily all
of them; an array has exactly these values in order. -/
def record? (names : List String) : Json → Option (List (Option Json))
  | .obj members => some (names.map fun name => Dictionary.get? name members)
  | .arr items => if items.length == names.length then some (items.map some) else none
  | _ => none

/-- The tag of a record, and the record without it: the member `kind` of an object, or the first item
of an array. -/
def tagged? : Json → Option (Json × Json)
  | .obj members => (Dictionary.get? "kind" members).map fun tag => (tag, .obj members)
  | .arr (tag :: items) => some (tag, .arr items)
  | _ => none

end Json

end RollCall
