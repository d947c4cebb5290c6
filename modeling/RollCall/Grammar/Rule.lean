/-!
# RollCall.Grammar.Rule — rules of a grammar and their productions

A grammar gives a rule for each of its parts. A rule is written with sequences, alternatives and
runs; `Rule.productions` turns it into productions, each a plain sequence of symbols.

A rule can mark what it covers. A rank with a side says how to go on where a part could end as well
as go on. A weight says which of two readings of one text is preferred. A name stands for the name
of what is read, and a role says what it is for in the part that holds it.
-/

namespace RollCall.Grammar

/-- Which reading of two equal ranks wins: the one that ends the left operand first, or the one that
goes on with the right one. -/
inductive Side where
  | left
  | right
deriving DecidableEq, Repr

/-- What a rule says of all that it covers. -/
inductive Mark where
  | rank (level : Int) (side : Option Side)
  | weight (value : Int)
  | name (name : String)
  | role (role : String)
deriving DecidableEq, Repr

/-- A rule. -/
inductive Rule where
  | token (name : String)
  | part (name : String)
  /-- One or more items, which together are a hidden part of that name. -/
  | run (name : String) (item : Rule)
  | seq (rules : List Rule)
  | alt (rules : List Rule)
  | marked (mark : Mark) (rule : Rule)

/-- A symbol of a production: a token or a part. -/
inductive Symbol where
  | token (name : String)
  | part (name : String)
deriving DecidableEq, Repr

/-- A symbol of a production with what the rule says of it. -/
structure Step (σ : Type) where
  symbol : σ
  rank : Int
  side : Option Side
  name : Option String
  role : Option String
deriving DecidableEq, Repr

/-- A part as a sequence of symbols. -/
structure Production (σ : Type) where
  part : σ
  steps : List (Step σ)
  weight : Int
deriving DecidableEq, Repr

namespace Rule

/-! ## §A Short forms -/

instance : Coe String Rule := ⟨Rule.token⟩

/-- Nothing at all. -/
def empty : Rule := .seq []

/-- A rule that may be left out. -/
def opt (rules : List Rule) : Rule := .alt [.seq rules, .empty]

/-- A run that may be left out. -/
def runOpt (name : String) (item : Rule) : Rule := .alt [.run name item, .empty]

/-- Items with separators between them; the run of the later ones has the given name. -/
def separated (name : String) (separator item : Rule) : Rule :=
  .seq [item, runOpt name (.seq [separator, item])]

/-- Ranked, with no side. -/
def rank (level : Int) (rule : Rule) : Rule := .marked (.rank level none) rule

/-- Ranked, the left operand first. -/
def leftRank (level : Int) (rule : Rule) : Rule := .marked (.rank level (some .left)) rule

/-- Ranked, the right operand first. -/
def rightRank (level : Int) (rule : Rule) : Rule := .marked (.rank level (some .right)) rule

/-- Weighted. -/
def weight (value : Int) (rule : Rule) : Rule := .marked (.weight value) rule

/-- Named. -/
def named (name : String) (rule : Rule) : Rule := .marked (.name name) rule

/-- With a role. -/
def role (role : String) (rule : Rule) : Rule := .marked (.role role) rule

/-! ## §B The symbols of a rule -/

mutual

/-- The tokens of a rule in the order of their first mention, perhaps more than once. -/
def tokens : Rule → List String
  | .token name => [name]
  | .part _ => []
  | .run _ item => item.tokens
  | .seq rules => tokensOf rules
  | .alt rules => tokensOf rules
  | .marked _ rule => rule.tokens

/-- The tokens of several rules. -/
def tokensOf : List Rule → List String
  | [] => []
  | rule :: rules => rule.tokens ++ tokensOf rules

end

mutual

/-- The runs of a rule with their items, perhaps more than once. -/
def runs : Rule → List (String × Rule)
  | .token _ => []
  | .part _ => []
  | .run name item => item.runs ++ [(name, item)]
  | .seq rules => runsOf rules
  | .alt rules => runsOf rules
  | .marked _ rule => rule.runs

/-- The runs of several rules. -/
def runsOf : List Rule → List (String × Rule)
  | [] => []
  | rule :: rules => rule.runs ++ runsOf rules

end

/-- The rule of a run: two shorter runs, or one item. -/
def ofRun (name : String) (item : Rule) : Rule := .alt [.seq [.part name, .part name], item]

end Rule

/-! ## §C Productions -/

/-- A rule without alternatives: a symbol, or a sequence under a mark. -/
inductive Piece where
  | symbol (s : Symbol)
  | marked (mark : Mark) (pieces : List Piece)

namespace Rule

mutual

/-- The sequences that a rule stands for. -/
def sequences : Rule → List (List Piece)
  | .token name => [[.symbol (.token name)]]
  | .part name => [[.symbol (.part name)]]
  | .run name _ => [[.symbol (.part name)]]
  | .seq rules => sequencesThrough rules
  | .alt rules => sequencesAmong rules
  | .marked mark rule => rule.sequences.map fun pieces => [.marked mark pieces]

/-- The sequences of rules one after the other. -/
def sequencesThrough : List Rule → List (List Piece)
  | [] => [[]]
  | rule :: rules =>
    let later := sequencesThrough rules
    rule.sequences.flatMap fun front => later.map (front ++ ·)

/-- The sequences of any one of several rules. -/
def sequencesAmong : List Rule → List (List Piece)
  | [] => []
  | rule :: rules => rule.sequences ++ sequencesAmong rules

end

end Rule

/-- The marks that hold at a place of a rule, the innermost of each sort. -/
structure Marks where
  rank : Int
  side : Option Side
  name : Option String
  role : Option String

namespace Marks

/-- No marks. -/
def none : Marks := ⟨0, Option.none, Option.none, Option.none⟩

/-- The marks inside another mark. -/
def under (marks : Marks) : Mark → Marks
  | .rank level side => { marks with rank := level, side := side <|> marks.side }
  | .weight _ => marks
  | .name name => { marks with name := some name }
  | .role role => { marks with role := some role }

/-- The last step of a ranked sequence has the rank around it, unless the production ends there. -/
def restored (marks : Marks) (mark : Mark) : List (Step Symbol) → List (Step Symbol)
  | [] => []
  | [step] =>
    match mark with
    | .rank _ side =>
      [{ step with rank := marks.rank, side := if side.isSome then marks.side else step.side }]
    | _ => [step]
  | step :: steps => step :: restored marks mark steps

end Marks

namespace Piece

mutual

/-- The steps of a piece; `last` says whether the production ends with it. -/
def steps (marks : Marks) (last : Bool) : Piece → List (Step Symbol)
  | .symbol s => [⟨s, marks.rank, marks.side, marks.name, marks.role⟩]
  | .marked mark pieces =>
    let inner := stepsOf (marks.under mark) last pieces
    if last then inner else marks.restored mark inner

/-- The steps of pieces one after the other. -/
def stepsOf (marks : Marks) (last : Bool) : List Piece → List (Step Symbol)
  | [] => []
  | piece :: pieces =>
    piece.steps marks (last && pieces.isEmpty) ++ stepsOf marks last pieces

end

mutual

/-- The weights of a piece, outer ones first. -/
def weights : Piece → List Int
  | .symbol _ => []
  | .marked (.weight value) pieces => value :: weightsOf pieces
  | .marked _ pieces => weightsOf pieces

/-- The weights of pieces one after the other. -/
def weightsOf : List Piece → List Int
  | [] => []
  | piece :: pieces => piece.weights ++ weightsOf pieces

end

end Piece

/-- Of several weights the one that is farthest from zero, the first of equals. -/
def heaviest (weights : List Int) : Int :=
  weights.foldl (fun w v => if w.natAbs < v.natAbs then v else w) 0

/-- The productions of a part with the given rule, each once. -/
def Rule.productions (part : String) (rule : Rule) : List (Production Symbol) :=
  (rule.sequences.map fun pieces =>
    ⟨.part part, Piece.stepsOf Marks.none true pieces, heaviest (Piece.weightsOf pieces)⟩).eraseDups

end RollCall.Grammar
