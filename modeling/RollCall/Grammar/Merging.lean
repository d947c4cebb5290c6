import RollCall.Grammar.Automaton

/-!
# RollCall.Grammar.Merging — states taken together

Most states of a grammar differ only in what may follow their productions. Such states become one as
long as that changes neither what is done with a token nor how tokens are read: a merged state looks
for the tokens of all its members, and a longer token among them could hide a shorter one.

States with one core start as a group. Members that stand in conflict are split off, and then, until
nothing changes, members whose successors are in different groups. Which members are split off
depends on the order of the states, and it shows where a text does not fit the grammar: a merged
state ends productions in front of tokens that only some of its members expect.
-/

namespace RollCall.Grammar

/-- Groups of states by number, and the group of every state. -/
structure Grouping where
  members : Array (List State)
  groupOf : Array Nat

namespace Grouping

/-- The group of a state. -/
def group (g : Grouping) (state : State) : Nat := g.groupOf.getD state 0

/-- The groups of states with one core, in the order of their first members. The lost state is a
group of its own, the first one. -/
def byCore (kernels : Array Kernel) : Grouping :=
  let add : Grouping × Std.HashMap (List (Nat × Nat)) Nat → Kernel × State →
      Grouping × Std.HashMap (List (Nat × Nat)) Nat := fun (g, known) (kernel, state) =>
    match known[kernel.core]? with
    | some n => (⟨g.members.modify n (state :: ·), g.groupOf.push n⟩, known)
    | none =>
      let n := g.members.size
      (⟨g.members.push [state], g.groupOf.push n⟩, known.insert kernel.core n)
  let g := (kernels.toList.zipIdx.foldl add (⟨#[], #[]⟩, ∅)).1
  { g with members := g.members.map List.reverse }

/-! ## §A Splitting -/

/-- Splits a list: each member that stays splits off those behind it that differ from it. -/
def separate (differ : State → State → Bool) : Nat → List State → List State × List State
  | 0, states => (states, [])
  | _ + 1, [] => ([], [])
  | fuel + 1, state :: states =>
    let (off, rest) := states.partition (differ state)
    let (kept, more) := separate differ fuel rest
    (state :: kept, off ++ more)

/-- Splits a group; what is split off becomes a new group. -/
def splitGroup (differ : Grouping → State → State → Bool) (g : Grouping) (n : Nat) : Grouping :=
  let states := g.members.getD n []
  match separate (differ g) states.length states with
  | (_, []) => g
  | (kept, off) =>
    let new := g.members.size
    { members := (g.members.setIfInBounds n kept).push off
      groupOf := off.foldl (fun groups state => groups.setIfInBounds state new) g.groupOf }

/-- Splits all groups from a number on, the new ones included. -/
def splitFrom (differ : Grouping → State → State → Bool) : Nat → Nat → Grouping → Grouping
  | 0, _, g => g
  | fuel + 1, n, g =>
    if n < g.members.size then splitFrom differ fuel (n + 1) (splitGroup differ g n) else g

/-- Splits all groups. There are never more groups than states. -/
def split (differ : Grouping → State → State → Bool) (g : Grouping) : Grouping :=
  splitFrom differ (g.groupOf.size + 1) 0 g

/-- Splits all groups as long as that makes new ones. -/
def splitAgain (differ : Grouping → State → State → Bool) : Nat → Grouping → Grouping
  | 0, g => g
  | fuel + 1, g =>
    let h := split differ g
    if h.members.size == g.members.size then g else splitAgain differ fuel h

/-! ## §B Differences -/

/-- Whether the same is done with a token, as far as the groups tell. -/
def sameMoves (g : Grouping) (m n : Moves) : Bool :=
  m.endings == n.endings && g.group m.next == g.group n.next && m.again == n.again

/-- Whether two rows do different things at a token, or whether a token that one of them expects
would hide one that the other looks for. `hides` gives the tokens that a token hides, and tokens of
`anywhere` are always looked for. -/
def conflicts (hides : Array TokenSet) (anywhere : TokenSet) (g : Grouping) (r s : Row) : Bool :=
  Nat.any (max r.moves.size s.moves.size) fun token _ =>
    let m := r.movesAt token
    let n := s.movesAt token
    match m.isEmpty, n.isEmpty with
    | true, true => false
    | false, false => !g.sameMoves m n
    | false, true => (hides.getD token 0) &&& (s.expected ||| anywhere) != 0
    | true, false => (hides.getD token 0) &&& (r.expected ||| anywhere) != 0

/-- Whether symbols that two rows share lead to different groups, given their successors. -/
def diverges (g : Grouping) : List (Nat × State) → List (Nat × State) → Bool
  | [], _ => false
  | _, [] => false
  | (m, s) :: ss, (n, u) :: us =>
    if m < n then diverges g ss ((n, u) :: us)
    else if n < m then diverges g ((m, s) :: ss) us
    else g.group s != g.group u || diverges g ss us
termination_by ss us => ss.length + us.length

end Grouping

/-! ## §C Merged rows -/

namespace Row

/-- The row with its states replaced. -/
def rename (f : State → State) (r : Row) : Row :=
  { r with moves := r.moves.map fun m => { m with next := f m.next }, parts := r.parts.map f }

/-- Two rows as one; what the second one says counts. -/
def merge (r s : Row) : Row where
  moves := (r.moves.zip s.moves).map fun (m, n) => if n.isEmpty then m else n
  parts := (r.parts.zip s.parts).map fun (m, n) => if n.isLost then m else n
  expected := r.expected ||| s.expected

/-- Several rows as one. -/
def mergeAll : List Row → Row
  | [] => empty
  | row :: rows => rows.foldl merge row

end Row

/-! ## §D States that only hand on -/

namespace Table

variable (t : Table)

/-- The part that a production makes of another symbol without leaving a trace of it in the tree. -/
def handedOn? (production : Nat) : Option Nat :=
  match t.productions[production]? with
  | none => none
  | some p =>
    match p.steps with
    | [step] =>
      if p.weight == 0 && step.name.isNone && step.role.isNone && t.hidden.getD p.part false
        && !t.gathers.getD p.part false then some p.part else none
    | _ => none

/-- The part that a state hands on in front of every token, if there is one. -/
def handsOn? (row : Row) : Option Nat :=
  let moves := row.moves.toList.filter fun m => !m.isEmpty
  let parts := moves.flatMap fun m => if m.takes then [none] else m.endings.map t.handedOn?
  match parts with
  | some part :: parts => if parts.all (· == some part) then some part else none
  | _ => none

/-- The state that is reached when states that only hand on are passed at once. -/
def passOn (relays : Array (Option Nat)) (row : Row) : Nat → State → State
  | 0, state => state
  | fuel + 1, state =>
    match relays.getD state none with
    | none => state
    | some part =>
      let next := row.parts.getD (part - t.tokens) State.lost
      if next.isLost then state else passOn relays row fuel next

/-- The states of a grammar. `hides` gives the tokens that a token hides when both are looked for,
and tokens of `anywhere` are always looked for. -/
def automaton (hides : Array TokenSet) (anywhere : TokenSet) : Automaton :=
  let (kernels, rows) := t.explore
  let row (state : State) : Row := rows.getD state Row.empty
  let g := Grouping.byCore kernels
  let g := g.split fun g s u => g.conflicts hides anywhere (row s) (row u)
  let successors := rows.map Row.successors
  let next (state : State) : List (Nat × State) := successors.getD state []
  let g := g.splitAgain (fun g s u => g.diverges (next s) (next u)) rows.size
  let merged := g.members.map fun states =>
    (Row.mergeAll (states.map row)).rename g.group
  let relays := merged.map t.handsOn?
  { tokens := t.tokens
    rows := merged.map fun row => row.rename (t.passOn relays row t.names.size)
    start := g.group 1 }

end Table

end RollCall.Grammar
