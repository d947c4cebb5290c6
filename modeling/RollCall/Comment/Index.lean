import RollCall.Text.Blank
import RollCall.Text.Dictionary

/-!
# RollCall.Comment.Index — what the comments of methods say about methods and groups

The last comment text attached to a method documents it, unless that text is a group marker. The
first marker among a method's texts gives its group a header. Methods are taken in the order of
their names, so a header given by a later name replaces one given by an earlier name.
-/

namespace RollCall

/-- A method name with the texts of the comment groups attached to it, in source order. -/
abbrev Annotated := String × List String

namespace Comment

/-- The words at the start of a text that describes a group. -/
def marker : String := "MethodGroup:"

/-- The documentation of a method that has none. -/
def placeholder : String := "There are not yet any comments for this method."

/-- The group name and the header of a marker text: the rest of the marker's line, trimmed, and all
further lines. -/
def markerOf? (text : String) : Option (String × String) :=
  (Text.afterLead? marker.toList text.toList).map fun rest =>
    match Text.lines rest with
    | [] => ("", "")
    | name :: header =>
      (String.ofList (Text.trim name), String.ofList (Text.unlines header))

/-- The documentation of a method: its last text, unless that one is a marker. -/
def own (texts : List String) : String :=
  match texts.getLast? with
  | some last => if (markerOf? last).isSome then placeholder else last
  | none => placeholder

/-- What is known of methods and groups by their names. -/
structure Index where
  methods : Dictionary String
  groups : Dictionary String

namespace Index

/-- The index of no methods. -/
def empty : Index := ⟨[], []⟩

/-- Takes up one method. -/
def add (index : Index) (entry : Annotated) : Index where
  methods := Dictionary.set entry.1 (own entry.2) index.methods
  groups :=
    match entry.2.findSome? markerOf? with
    | some (group, header) => Dictionary.set group header index.groups
    | none => index.groups

/-- Entries in the order of their names, entries of one name in the order given. -/
def byName (entries : List Annotated) : List Annotated :=
  entries.mergeSort fun a b => decide (a.1 ≤ b.1)

/-- The index of a list of methods. -/
def ofMethods (entries : List Annotated) : Index := (byName entries).foldl add empty

/-- The documentation of a method. -/
def commentFor (index : Index) (method : String) : String :=
  (Dictionary.get? method index.methods).getD placeholder

/-- The header of a group, empty where none is known. -/
def header (index : Index) (group : String) : String :=
  (Dictionary.get? group index.groups).getD ""

end Index

end Comment

end RollCall
