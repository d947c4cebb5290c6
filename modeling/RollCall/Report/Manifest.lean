import RollCall.Json.Writer
import RollCall.Report.Group

/-!
# RollCall.Report.Manifest — the machine readable list of methods

A manifest tells for every method name whether the method opens a subscription. It is written as a
JSON object by ascending names; a method that opens none has an empty object under its name.
-/

namespace RollCall

/-- Method names and whether the method opens a subscription. -/
abbrev Manifest := Dictionary Bool

namespace Manifest

/-- The manifest of groups of methods, given the names of the methods that open a subscription. -/
def ofGroups (groups : List Group) (subscriptions : List String) : Manifest :=
  Dictionary.ofList ((Group.allMethods groups).map fun m => (m.name, subscriptions.contains m.name))

/-- What is written under a name. -/
def entry (subscription : Bool) : Json :=
  if subscription then .obj [("subscription", .bool true)] else .obj []

/-- The manifest as a JSON value. -/
def toJson (manifest : Manifest) : Json := .obj (Dictionary.mapValues entry manifest)

/-- The manifest as JSON text. -/
def render (manifest : Manifest) : String := manifest.toJson.compact

end Manifest

end RollCall
