import RollCall.Declaration.Basic
import RollCall.MethodName

/-!
# RollCall.MethodSet — the methods of an interface with everything it embeds

The method set of an interface holds its exported methods and, through embedded names of the same
package, those of the interfaces it embeds. `enter` follows embedded lists from left to right and
depth first, and goes into every name once. An embedded name that is no interface of the package,
and an embedded interface of another package, is reported and otherwise passed over.
-/

namespace RollCall

/-- A name was asked for that is no interface of the package. -/
structure UnknownInterface where
  name : String
deriving DecidableEq, Repr

/-- The wording of the error. -/
def UnknownInterface.message (e : UnknownInterface) : String :=
  "interface '" ++ e.name ++ "' is not declared in the package"

/-- Something that is worth a word but stops nothing. -/
inductive Warning where
  /-- A declaration of the wanted name is no interface. -/
  | notAnInterface (file name : String)
  /-- An embedded name is no interface of the package. -/
  | unknownEmbed (name : String)
  /-- The methods of an embedded interface of another package are not known. -/
  | foreignEmbed (package name : String)
deriving DecidableEq, Repr

namespace Warning

/-- The wording of a warning. -/
def message : Warning → String
  | .notAnInterface _ _ => "declaration is not an interface"
  | .unknownEmbed _ => "embedded type is not an interface declared in the package"
  | .foreignEmbed _ _ => "cannot enumerate methods of an interface from another package"

/-- What a warning is about, by name. -/
def details : Warning → Dictionary String
  | .notAnInterface file name => [("file", file), ("name", name)]
  | .unknownEmbed name => [("name", name)]
  | .foreignEmbed package name => [("interface", name), ("package", package)]

end Warning

namespace MethodSet

/-- How far a traversal has come: the names entered, in order, the methods found, and the warnings
in order. -/
structure Tour where
  entered : List String
  methods : Dictionary Unit
  warnings : List Warning

/-- A tour that has not begun. -/
def Tour.start : Tour := ⟨[], [], []⟩

/-- Adds a warning. -/
def Tour.warn (tour : Tour) (w : Warning) : Tour := { tour with warnings := tour.warnings ++ [w] }

/-- Adds the exported ones among method names. -/
def Tour.collect (tour : Tour) (methods : List String) : Tour :=
  { tour with
    methods := (methods.filter isExported).foldl (fun ms m => Dictionary.set m () ms) tour.methods }

/-- Goes into a name unless it was entered before. Every name entered on the way down is an
interface of the index, so a count of one more than the index is long is never used up. -/
def enter (index : Index) : Nat → String → Tour → Tour
  | 0, _, tour => tour
  | fuel + 1, name, tour =>
    if tour.entered.contains name then tour
    else
      let tour := { tour with entered := tour.entered ++ [name] }
      match index.shape? name with
      | none => tour.warn (.unknownEmbed name)
      | some shape =>
        shape.embedded.foldl
          (fun tour embed =>
            match embed with
            | .sibling name => enter index fuel name tour
            | .foreign package name => tour.warn (.foreignEmbed package name)
            | .term _ => tour)
          (tour.collect shape.methods)

/-- The tour of an interface and all it embeds. -/
def tour (index : Index) (name : String) : Tour := enter index (index.length + 2) name .start

/-- The exported method names of an interface, ascending. -/
def names (index : Index) (name : String) : Except UnknownInterface (List String) :=
  if (index.shape? name).isNone then .error ⟨name⟩
  else .ok (Dictionary.names (tour index name).methods)

/-- The warnings of listing the methods of an interface; a name that is none gives no warning. -/
def warnings (index : Index) (name : String) : List Warning :=
  if (index.shape? name).isNone then [] else (tour index name).warnings

end MethodSet

end RollCall
