import RollCall.Json.Basic
import RollCall.Number.Layout

/-!
# RollCall.Settings.Value — the values that settings are made of

Settings come in layers: defaults, a file, the environment. Each layer is a table of values, and
`merge` puts one over another: tables merge entry by entry at every depth, anything else is
replaced.

A layer remembers whether it wrote an integer with or without a sign in mind, because that shows in
error messages.
-/

namespace RollCall

/-- A floating point value with the values that are no numbers. -/
inductive Real where
  | finite (x : Binary64)
  | infinite (negative : Bool)
  | notANumber
deriving DecidableEq, Repr

/-- A value of a settings layer. -/
inductive Setting where
  | text (value : String)
  | bool (value : Bool)
  | signed (value : Int)
  | unsigned (value : Nat)
  | real (value : Real)
  | list (items : List Setting)
  | table (entries : List (String × Setting))
deriving Inhabited

namespace Setting

mutual

/-- One value over another. -/
def merge : Setting → Setting → Setting
  | lower, .table upper =>
    match lower with
    | .table entries => .table (mergeEntries entries upper)
    | _ => .table upper
  | _, upper => upper

/-- The entries of one table over those of another. -/
def mergeEntries : List (String × Setting) → List (String × Setting) → List (String × Setting)
  | lower, [] => lower
  | lower, (name, upper) :: rest =>
    let value :=
      match Dictionary.get? name lower with
      | some old => merge old upper
      | none => upper
    mergeEntries (Dictionary.set name value lower) rest

end

mutual

/-- A value as JSON. What is no number becomes null. -/
def toJson : Setting → Json
  | .text s => .str s
  | .bool b => .bool b
  | .signed n => .int n
  | .unsigned n => .int n
  | .real (.finite x) => .float x
  | .real _ => .null
  | .list items => .arr (itemsToJson items)
  | .table entries => .obj (entriesToJson entries)

/-- Items as JSON. -/
def itemsToJson : List Setting → List Json
  | [] => []
  | v :: vs => v.toJson :: itemsToJson vs

/-- Entries as JSON. -/
def entriesToJson : List (String × Setting) → List (String × Json)
  | [] => []
  | (name, v) :: rest => (name, v.toJson) :: entriesToJson rest

end

/-- The value under a path of names in nested tables. -/
def nest : List String → Setting → Setting
  | [], v => v
  | name :: path, v => .table [(name, nest path v)]

end Setting

end RollCall
