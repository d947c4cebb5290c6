import RollCall.Grammar.Stack

/-!
# RollCall.Grammar.Language — a grammar with its tokens, and the ending of parts

A language is a grammar together with the way its tokens are read: what the next token is depends on
the state, because some tokens are only looked for where the grammar has a place for them.

`Readings.reduce` ends a production on top of a stack: its trees become the children of one node.
When the stack can be taken apart in several ways the best node is kept for each frame it can rest
on.
-/

namespace RollCall.Grammar

open RollCall.Text (Spot)

/-- A grammar with its tokens. -/
structure Language where
  table : Table
  automaton : Automaton
  /-- The token of names. -/
  name : Nat
  /-- The token of comments, which may stand anywhere. -/
  comment : Nat
  /-- The tokens that are looked for when the thread is lost. -/
  lostTokens : TokenSet
  /-- The next token where tokens of a set can come next. Where the thread is lost the set is
  empty. -/
  next : TokenSet → Spot → Tree

namespace Language

variable (l : Language)

/-- The moves at a label; at a fault there are none. -/
def moves (state : State) : Label → Moves
  | .symbol number => l.automaton.moves state number
  | _ => Moves.none

/-- Whether a state has anything to do with a label. -/
def accepts (state : State) (label : Label) : Bool :=
  match label with
  | .symbol number =>
    number == l.comment ||
      if state.isLost then l.lostTokens.testBit number
      else !(l.automaton.moves state number).isEmpty
  | _ => false

end Language

namespace Readings

variable (l : Language)

/-- The most heads that are pursued. -/
def maxHeads : Nat := 6

/-- How many more heads there may be for the moment. -/
def headRoom : Nat := 4

/-- The best node of a production among slices that end at one frame, with the extra trees behind
it. -/
def bestNode (production : Nat) (part : Nat) (at_ : Spot) :
    Tree × List Tree → List Slice → Tree × List Tree
  | best, [] => best
  | best, slice :: slices =>
    let (children, extras) := Tree.splitExtras slice.trees
    let node := Tree.ofChildren l.table (.symbol part) (some production) at_ children
    let best := if Tree.prefersSecond l.table best.1 node then (node, extras) else best
    bestNode production part at_ best slices

/-- Rests the nodes of a production on the frames that slices end at. `removed` heads in front of
those of the slices have gone since. -/
def restNodes (v production : Nat) (p : Production Nat) :
    Nat → Nat → Readings → List Slice → Readings
  | 0, _, r, _ => r
  | _ + 1, _, r, [] => r
  | fuel + 1, removed, r, slice :: slices =>
    let w := slice.head - removed
    let same := slices.takeWhile fun s => s.head == slice.head
    let others := slices.dropWhile fun s => s.head == slice.head
    if maxHeads + headRoom < w then restNodes v production p fuel (removed + 1) (r.drop w) others
    else
      let top := r.top w
      let (children, extras) := Tree.splitExtras slice.trees
      let node := Tree.ofChildren l.table (.symbol p.part) (some production) top.spot children
      let (node, extras) := bestNode l production p.part top.spot (node, extras) same
      let state := l.automaton.goto top.state p.part
      let r := r.push w (some (node.weighted p.weight)) state
      let r := r.pushAll w extras state
      match r.partner? w ((List.range w).filter (· != v)) with
      | some u => restNodes v production p fuel (removed + 1) (r.merge u w) others
      | none => restNodes v production p fuel removed r others

/-- Ends a production on top of a head. The head stays; the first of the new heads is given back, if
any is left. -/
def reduce (r : Readings) (v production : Nat) : Readings × Option Nat :=
  match l.table.productions[production]? with
  | none => (r, none)
  | some p =>
    let first := r.count
    let (r, slices) := r.unwind v (.trees p.steps.length)
    let r := restNodes l v production p (slices.length + 1) 0 r slices
    (r, if first < r.count then some first else none)

/-! ## §A The end of the text -/

/-- The whole text as one node: the last tree that is not extra, with the extra trees around it as
further children. -/
def wholeText (trees : List Tree) : Option Tree :=
  let extras := (trees.reverse.takeWhile Tree.extra).reverse
  match (trees.take (trees.length - extras.length)).reverse with
  | [] => none
  | root :: before =>
    some <| Tree.ofChildren l.table root.label root.facts.production (Spot.start [])
      (before.reverse ++ root.children ++ extras)

/-- Keeps the better one of the reading so far and another. -/
def finish (r : Readings) (tree : Option Tree) : Readings :=
  let better :=
    match r.finished, tree with
    | some old, some new => Tree.prefersSecond l.table old new
    | none, _ => true
    | some _, none => false
  { r with
    finished := if better then tree else r.finished
    accepts := r.accepts + 1 }

/-- Ends the reading of a head at the end of the text. -/
def accept (r : Readings) (v : Nat) (token : Tree) : Readings :=
  let r := r.push v (some token) l.automaton.start
  let (r, slices) := r.unwind v .bottom
  let r := slices.foldl (fun r slice => finish l r (wholeText l slice.trees)) r
  let r :=
    match slices with
    | [] => r
    | slice :: _ => r.drop slice.head
  r.halt v

end Readings

end RollCall.Grammar
