import RollCall.Comment.Index
import RollCall.MethodName

/-!
# RollCall.Report.Group — methods gathered into groups

Methods are gathered by the group of their name. Groups ascend by name and so do the methods inside
one; a name listed twice is reported twice.
-/

namespace RollCall

/-- A method as it is reported. The examples are JSON texts. -/
structure Method where
  name : String
  comment : String
  inputExample : Option String := none
  responseExample : Option String := none
deriving DecidableEq, Repr

/-- A group of methods under one heading. -/
structure Group where
  name : String
  header : String
  methods : List Method
deriving DecidableEq, Repr

namespace Group

/-- A method with its documentation and no examples. -/
def methodOf (index : Comment.Index) (name : String) : Method :=
  ⟨name, index.commentFor name, none, none⟩

/-- Method names by the name of their group, in the order given. -/
def gather (names : List String) : Dictionary (List String) :=
  names.foldl
    (fun groups name =>
      let group := groupName name
      Dictionary.set group ((Dictionary.get? group groups).getD [] ++ [name]) groups)
    []

/-- The groups of a list of method names. -/
def ofNames (names : List String) (index : Comment.Index) : List Group :=
  (gather names).map fun (group, members) =>
    ⟨group, index.header group,
      (members.map (methodOf index)).mergeSort fun a b => decide (a.name ≤ b.name)⟩

/-- The methods of all groups, in order. -/
def allMethods (groups : List Group) : List Method := groups.flatMap Group.methods

end Group

end RollCall
