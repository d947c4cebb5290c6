import RollCall.Report.Group

/-!
# RollCall.Report.Markdown — the readable list of methods

Every group is a heading of the second level with its header below, every method a heading of the
third level with its documentation, and its examples where it has some. Header, documentation and
each example are followed by an empty line.
-/

namespace RollCall.Markdown

/-- An example under its title, or nothing. -/
def example? (title : String) : Option String → String
  | none => ""
  | some json => title ++ ": \x60" ++ json ++ "\x60\n\n"

/-- A method. -/
def method (m : Method) : String :=
  "### " ++ m.name ++ "\n" ++ m.comment ++ "\n\n"
    ++ example? "Inputs" m.inputExample ++ example? "Response" m.responseExample

/-- A group with its methods. -/
def group (g : Group) : String :=
  "## " ++ g.name ++ "\n" ++ g.header ++ "\n\n" ++ String.join (g.methods.map method)

/-- All groups. -/
def render (groups : List Group) : String := String.join (groups.map group)

end RollCall.Markdown
