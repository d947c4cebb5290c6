import RollCall.Source.Lexeme
import RollCall.Source.Plain.File

/-!
# RollCall.Source.Reading — the outline of a source text

A file that holds nothing but a package clause and type declarations is read directly, which needs
no tables. Any other text is read by the grammar, which repairs what does not fit.

Where both ways can be gone they are meant to give the same outline. This has been compared on many
files and is not proved: what is proved of the outlines of source texts is proved of the direct
reader, and what is proved of outlines holds for those of the grammar as well.
-/

namespace RollCall.Source.Outline

open RollCall.Grammar
open RollCall.Text (Spot)

/-! ## §A From trees -/

/-- The kinds of all symbols. -/
def symbolKinds : Array Kind := Syntax.table.names.map Kind.ofName

/-- The kind of a label. -/
def kindOf : Label → Kind
  | .symbol number => symbolKinds.getD number (.other "")
  | .fault => .fault
  | .scrap => .other ""

mutual

/-- Puts the nodes of a tree in front of others. A node that stays out is replaced by its children,
which take over its role. -/
def ofTree (name role : Option String) : Tree → List Outline → List Outline
  | .node facts children, rest =>
    let steps := (facts.production.bind (Syntax.table.productions[·]?)).elim [] Production.steps
    if facts.shows || name.isSome then
      let kind := (name.map Kind.ofName).getD (kindOf facts.label)
      .node kind (role.bind Role.ofName?) facts.missing facts.start facts.stop
        (ofTrees none steps children []) :: rest
    else ofTrees role steps children rest

/-- Puts the nodes of trees in front of others. Trees that are not extra take one step each, which
gives their name and role. -/
def ofTrees (inherited : Option String) : List (Step Nat) → List Tree → List Outline → List Outline
  | _, [], rest => rest
  | steps, tree :: trees, rest =>
    if tree.extra then ofTree none none tree (ofTrees inherited steps trees rest)
    else
      match steps with
      | [] => ofTree none inherited tree (ofTrees inherited [] trees rest)
      | step :: steps =>
        ofTree step.name (step.role <|> inherited) tree (ofTrees inherited steps trees rest)

end

/-- The outline of a source text by the grammar. -/
def byGrammar (source : List Char) : Outline :=
  let start := Spot.start source
  match (language.get.read source).map fun tree => ofTree none none tree [] with
  | some [root] => root
  | _ => .node .fault none false start (start.skip source.length) []

/-! ## §B From source texts -/

/-- The outline of a source text. -/
def ofSource (source : List Char) : Outline := (Plain.file? source).getD (byGrammar source)

end RollCall.Source.Outline
