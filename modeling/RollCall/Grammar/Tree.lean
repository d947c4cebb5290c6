import RollCall.Grammar.Table
import RollCall.Text.Spot

/-!
# RollCall.Grammar.Tree — what has been read

A tree is a token or a part with its children. Reading goes on where a text does not fit the
grammar: a token may be missing, and text may be skipped. Both have a cost, and of two readings of a
text the cheaper one is kept, then the one of greater weight.

A tree also counts the nodes that show below it; how much has been read since the last fault is
measured in such nodes.
-/

namespace RollCall.Grammar

open RollCall.Text (Spot)

/-- What a tree stands for. -/
inductive Label where
  | symbol (number : Nat)
  /-- Text that does not fit. -/
  | fault
  /-- Text that has been skipped and is not yet part of a fault. -/
  | scrap
deriving DecidableEq, Inhabited

/-- What is known of a tree besides its children. -/
structure Facts where
  label : Label
  /-- The production that the children fit. -/
  production : Option Nat := none
  /-- The end of the text before. -/
  pad : Spot
  start : Spot
  stop : Spot
  /-- Whether the tree may stand anywhere, as comments and faults do. -/
  extra : Bool := false
  /-- Whether the text does not have the token. -/
  missing : Bool := false
  /-- Whether the token is a word that can be a name as well. -/
  word : Bool := false
  cost : Nat := 0
  weight : Int := 0
  /-- The number of nodes below that show. -/
  nodes : Nat := 0
  /-- The number of children that show, those of hidden children included. -/
  shown : Nat := 0
  /-- Whether the tree shows. -/
  shows : Bool
deriving Inhabited

/-- A token, a part or a fault with its children. -/
inductive Tree where
  | node (facts : Facts) (children : List Tree)
deriving Inhabited

namespace Tree

/-- What is known of the tree. -/
def facts : Tree → Facts
  | .node facts _ => facts

/-- The children. -/
def children : Tree → List Tree
  | .node _ children => children

/-- What the tree stands for. -/
def label (t : Tree) : Label := t.facts.label

/-- Whether the tree may stand anywhere. -/
def extra (t : Tree) : Bool := t.facts.extra

/-- The tree as one that may stand anywhere. -/
def asExtra : Tree → Tree
  | .node facts children => .node { facts with extra := true } children

/-! ## §A Costs -/

/-- The cost of a fault, whatever its text. -/
def faultCost : Nat := 500

/-- The cost of a missing token, which includes that of a fault. -/
def missingCost : Nat := 610

/-- The cost of a tree that is skipped. -/
def skipCost : Nat := 100

/-- The cost of the skipped text between two spots: one for a byte and thirty for a line. -/
def distance (a b : Spot) : Nat := (b.byte - a.byte) + 30 * (b.line - a.line)

/-! ## §B Building trees -/

/-- Whether a tree with that label shows. -/
def labelShows (t : Table) : Label → Bool
  | .symbol number => !t.hidden.getD number false
  | .fault => true
  | .scrap => false

/-- A token, or the text of a fault. -/
def leaf (t : Table) (label : Label) (pad start stop : Spot) : Tree :=
  .node
    { label := label
      pad := pad
      start := start
      stop := stop
      extra := label == .symbol 0
      shows := labelShows t label } []

/-- A token that the text does not have. -/
def absent (t : Table) (token : Nat) (at_ : Spot) : Tree :=
  .node
    { label := .symbol token
      pad := at_
      start := at_
      stop := at_
      missing := true
      cost := missingCost
      shows := labelShows t (.symbol token) } []

/-- The cost of skipping a child, besides its own. -/
def skippingCost (child : Tree) : Nat :=
  let facts := child.facts
  if facts.extra || (facts.label == .fault && child.children.isEmpty) then 0
  else if facts.shows then skipCost
  else if child.children.isEmpty then 0
  else skipCost * facts.shown

/-- What the children of a node add up to. -/
structure Sum where
  cost : Nat := 0
  weight : Int := 0
  nodes : Nat := 0
  shown : Nat := 0

/-- Adds up children. The steps tell which children show under a name of their own; an extra child
takes no step. -/
def total (skipped : Bool) : List (Step Nat) → List Tree → Sum → Sum
  | _, [], sum => sum
  | steps, child :: children, sum =>
    let facts := child.facts
    let (named, steps) :=
      match facts.extra, steps with
      | false, step :: steps => (step.name.isSome, steps)
      | _, steps => (false, steps)
    let own := if facts.label == .scrap then 0 else facts.cost
    let shows := facts.shows || named
    let shown := if shows then 1 else if child.children.isEmpty then 0 else facts.shown
    total skipped steps children
      { cost := sum.cost + own + (if skipped then skippingCost child else 0)
        weight := sum.weight + facts.weight
        nodes := sum.nodes + facts.nodes + (if shows then 1 else 0)
        shown := sum.shown + shown }

/-- The spots of a node with the given children; without children it stands at `at_`. -/
def spots (at_ : Spot) (children : List Tree) : Spot × Spot × Spot :=
  match children, children.getLast? with
  | first :: _, some last => (first.facts.pad, first.facts.start, last.facts.stop)
  | _, _ => (at_, at_, at_)

/-- A node with the given children; without children it stands at `at_`. -/
def ofChildren (t : Table) (label : Label) (production : Option Nat) (at_ : Spot)
    (children : List Tree) : Tree :=
  let skipped := label == .fault || label == .scrap
  let steps := (production.bind (t.productions[·]?)).elim [] Production.steps
  let sum := total skipped steps children {}
  let (pad, start, stop) := spots at_ children
  let own := if skipped then faultCost + distance start stop else 0
  .node
    { label := label
      production := production
      pad := pad
      start := start
      stop := stop
      cost := sum.cost + own
      weight := sum.weight
      nodes := sum.nodes
      shown := sum.shown
      shows := labelShows t label } children

/-- A node with more weight. -/
def weighted (weight : Int) : Tree → Tree
  | .node facts children => .node { facts with weight := facts.weight + weight } children

/-- The number of nodes that show, the tree itself included. -/
def count (t : Tree) : Nat :=
  t.facts.nodes + (if t.facts.shows || t.facts.label == .scrap then 1 else 0)

/-! ## §C Comparing trees -/

/-- Whether two trees are as good as the same to what stands around them. -/
def alike (a b : Tree) : Bool :=
  let f := a.facts
  let g := b.facts
  f.label == g.label &&
    ((0 < f.cost && 0 < g.cost) ||
      (f.start.index - f.pad.index == g.start.index - g.pad.index &&
        f.stop.index - f.start.index == g.stop.index - g.start.index &&
        a.children.length == b.children.length && f.extra == g.extra))

/-- A label as a number; faults come after all symbols. -/
def rankOf (t : Table) : Label → Nat
  | .symbol number => number
  | .fault => t.names.size
  | .scrap => t.names.size + 1

mutual

/-- The order of trees by symbols and number of children, from the top down. -/
def order (t : Table) : Tree → Tree → Ordering
  | .node f cs, .node g ds =>
    ((compare (rankOf t f.label) (rankOf t g.label)).then
      (compare cs.length ds.length)).then (orderAll t cs ds)

/-- The order of lists of trees, by the first difference. -/
def orderAll (t : Table) : List Tree → List Tree → Ordering
  | c :: cs, d :: ds => (order t c d).then (orderAll t cs ds)
  | _, _ => .eq

end

/-- Whether the second of two readings of a text is to be kept. -/
def prefersSecond (t : Table) (a b : Tree) : Bool :=
  let f := a.facts
  let g := b.facts
  if f.cost != g.cost then g.cost < f.cost
  else if f.weight != g.weight then f.weight < g.weight
  else if 0 < f.cost then true
  else order t a b == .gt

/-- Splits off the extra trees at the end. -/
def splitExtras (trees : List Tree) : List Tree × List Tree :=
  let extras := (trees.reverse.takeWhile extra).reverse
  (trees.take (trees.length - extras.length), extras)

end Tree

end RollCall.Grammar
