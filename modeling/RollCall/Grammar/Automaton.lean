import RollCall.Grammar.Kernel
import Std.Data.HashMap

/-!
# RollCall.Grammar.Automaton — the states of a reader

The kernels that can come up are numbered from one, in the order in which they are found; each of
them is a state with the moves at every token and the state after every part. State zero is that of
a reader who has lost the thread.

`Table.explore` finds the states. Many of them differ only in what may follow their productions;
they are taken together in the next module.
-/

namespace RollCall.Grammar

/-- A state by its number. -/
abbrev State := Nat

namespace State

/-- The state of having lost the thread. -/
def lost : State := 0

/-- Whether the thread is lost. -/
def isLost (s : State) : Bool := s == lost

end State

/-- What is done with a token. -/
structure Moves where
  /-- The productions that may end in front of it. -/
  endings : List Nat
  /-- The state after taking it, or the lost one if it cannot be taken. -/
  next : State
  /-- Whether taking it only goes on with a run in another way than ending it does. -/
  again : Bool
deriving DecidableEq, Inhabited

namespace Moves

/-- No moves. -/
def none : Moves := ⟨[], State.lost, false⟩

/-- Whether the token can be taken. -/
def takes (m : Moves) : Bool := !m.next.isLost

/-- Whether nothing can be done. -/
def isEmpty (m : Moves) : Bool := m.endings.isEmpty && !m.takes

end Moves

/-- What is done in a state. -/
structure Row where
  /-- The moves by token. -/
  moves : Array Moves
  /-- The states after parts, by symbol from the first part on. -/
  parts : Array State
  /-- The tokens at which there are moves. -/
  expected : TokenSet
deriving Inhabited

/-- The states of a reader. -/
structure Automaton where
  /-- The number of tokens. -/
  tokens : Nat
  rows : Array Row
  start : State
deriving Inhabited

/-! ## §A Rows -/

namespace Row

/-- The tokens with moves. -/
def tokensOf (moves : List Moves) : TokenSet :=
  TokenSet.ofList ((moves.zipIdx.filter fun (m, _) => !m.isEmpty).map Prod.snd)

/-- The row with the given moves and states after parts. -/
def ofLists (moves : List Moves) (parts : List State) : Row :=
  ⟨moves.toArray, parts.toArray, tokensOf moves⟩

/-- The row without moves. -/
def empty : Row := ⟨#[], #[], 0⟩

/-- The moves at a token. -/
def movesAt (row : Row) (token : Nat) : Moves := row.moves.getD token Moves.none

/-- The state after a part, which is counted from the first part on. -/
def partAt (row : Row) (n : Nat) : State := row.parts.getD n State.lost

/-- The symbols that lead to other states, in order, with these states. -/
def successors (row : Row) : List (Nat × State) :=
  (((row.moves.map Moves.next) ++ row.parts).toList.zipIdx.filter fun (s, _) => !s.isLost).map
    fun (s, n) => (n, s)

end Row

namespace Automaton

variable (a : Automaton)

/-- The row of a state. -/
def row (state : State) : Row := a.rows.getD state Row.empty

/-- The moves of a state at a token. -/
def moves (state : State) (token : Nat) : Moves := (a.row state).movesAt token

/-- The state after a part. -/
def goto (state : State) (part : Nat) : State :=
  (a.row state).partAt (part - a.tokens)

/-- The tokens at which a state has moves. -/
def expected (state : State) : TokenSet := (a.row state).expected

end Automaton

/-! ## §B Exploration -/

/-- The kernels found so far with their numbers. -/
structure Census where
  kernels : Array Kernel
  numbers : Std.HashMap Kernel State

namespace Census

/-- The number of a kernel, which is a new one if it is not yet known. -/
def number (c : Census) (kernel : Kernel) : Census × State :=
  if kernel.isEmpty then (c, State.lost)
  else
    match c.numbers[kernel]? with
    | some state => (c, state)
    | none =>
      let state := c.kernels.size
      (⟨c.kernels.push kernel, c.numbers.insert kernel state⟩, state)

/-- The numbers of several kernels. -/
def numberAll (c : Census) : List Kernel → Census × List State
  | [] => (c, [])
  | kernel :: kernels =>
    let (c, state) := c.number kernel
    let (c, states) := numberAll c kernels
    (c, state :: states)

end Census

namespace Table

variable (t : Table)

/-- The moves at a token, given the state after it. -/
def movesOf (kernel : Kernel) (token : Nat) (next : State) : Moves :=
  let choices := t.choices kernel token
  { endings := choices.endings.map fun p => t.models.getD p p
    next := if choices.takes then next else State.lost
    again := choices.again }

/-- The row of a kernel. -/
def rowOf (c : Census) (kernel : Kernel) : Census × Row :=
  let tokens := List.range t.tokens
  let symbols := List.range t.names.size
  let possible := t.possible kernel
  let next (symbol : Nat) : Kernel := if possible.testBit symbol then t.after kernel symbol else []
  let (c, states) := c.numberAll (symbols.map next)
  let moves := (tokens.zip states).map fun (token, next) =>
    if possible.testBit token then t.movesOf kernel token next else Moves.none
  (c, Row.ofLists moves (states.drop t.tokens))

/-- Finds the rows of all kernels from a number on. -/
def exploreFrom : Nat → Census → Array Row → Census × Array Row
  | 0, c, rows => (c, rows)
  | fuel + 1, c, rows =>
    match c.kernels[rows.size]? with
    | none => (c, rows)
    | some kernel =>
      let (c, row) := t.rowOf c kernel
      exploreFrom fuel c (rows.push row)

/-- The most states that are looked for. -/
def maxStates : Nat := 100000

/-- All kernels with their rows. The first kernel has number one. -/
def explore : Array Kernel × Array Row :=
  let (c, _) := (Census.mk #[[]] ∅).number t.first
  let (c, rows) := t.exploreFrom maxStates c #[Row.empty]
  (c.kernels, rows)

end Table

end RollCall.Grammar
