import RollCall.Grammar.Automaton
import RollCall.Grammar.Tree

/-!
# RollCall.Grammar.Stack — readings that share what they have in common

What has been read so far is a stack of trees. Several readings of one text are pursued at once:
each is a head on top of a stack, and stacks share frames. A frame can rest on several others, one
link for each way in which the text up to it can be read.

Frames are kept in an array and named by their place in it; heads by their place in the list of
heads. `unwind` takes trees off a stack along all of its links and makes a new head for every frame
that it ends at.
-/

namespace RollCall.Grammar

open RollCall.Text (Spot)

/-- A step down from a frame: the frame below and the tree in between. A link without a tree leads
to where the thread was lost. -/
structure Link where
  frame : Nat
  tree : Option Tree
deriving Inhabited

/-- A frame of a stack. -/
structure Frame where
  state : State
  /-- The end of the text that has been read. -/
  spot : Spot
  links : List Link
  /-- The cost of the trees below. -/
  cost : Nat
  /-- The number of nodes below that show. -/
  nodes : Nat
  /-- The weight of the trees below. -/
  weight : Int
deriving Inhabited

/-- Whether a reading goes on. -/
inductive Status where
  | active
  /-- The token does not fit; whether to go on depends on the other readings. -/
  | paused (token : Tree)
  | halted
deriving Inhabited

/-- A frame that a reading could go back to. -/
structure Retreat where
  spot : Spot
  depth : Nat
  state : State
deriving Inhabited

/-- The top of a stack. -/
structure Head where
  frame : Nat
  status : Status
  /-- The number of nodes below at the last fault. -/
  mark : Nat
  /-- The frames to go back to, once the thread has been lost. -/
  retreats : Option (List Retreat)
deriving Inhabited

/-- All readings under way. -/
structure Readings where
  frames : Array Frame
  heads : Array Head
  /-- The best reading of the whole text so far. -/
  finished : Option Tree
  /-- How many readings have come to the end. -/
  accepts : Nat
deriving Inhabited

namespace Readings

/-! ## §A Frames and heads -/

/-- One reading, in front of a text. -/
def start (state : State) (spot : Spot) : Readings where
  frames := #[⟨state, spot, [], 0, 0, 0⟩]
  heads := #[⟨0, .active, 0, none⟩]
  finished := none
  accepts := 0

/-- The frame at a place. -/
def frame (r : Readings) (n : Nat) : Frame := r.frames.getD n default

/-- The head at a place. -/
def head (r : Readings) (v : Nat) : Head := r.heads.getD v default

/-- The frame of a head. -/
def top (r : Readings) (v : Nat) : Frame := r.frame (r.head v).frame

/-- The number of heads. -/
def count (r : Readings) : Nat := r.heads.size

/-- Changes a head. -/
def setHead (r : Readings) (v : Nat) (change : Head → Head) : Readings :=
  { r with heads := r.heads.modify v change }

/-- Changes a frame. -/
def setFrame (r : Readings) (n : Nat) (change : Frame → Frame) : Readings :=
  { r with frames := r.frames.modify n change }

/-- Drops a head. -/
def drop (r : Readings) (v : Nat) : Readings := { r with heads := r.heads.eraseIdxIfInBounds v }

/-- Stops a reading. -/
def halt (r : Readings) (v : Nat) : Readings := r.setHead v fun h => { h with status := .halted }

/-- Whether a head is active. -/
def isActive (r : Readings) (v : Nat) : Bool :=
  match (r.head v).status with
  | .active => true
  | _ => false

/-- A frame on top of another. -/
def frameOn (below : Nat) (f : Frame) (tree : Option Tree) (state : State) : Frame :=
  match tree with
  | none => { f with state := state, links := [⟨below, none⟩] }
  | some tree =>
    { state := state
      spot := tree.facts.stop
      links := [⟨below, some tree⟩]
      cost := f.cost + tree.facts.cost
      nodes := f.nodes + tree.count
      weight := f.weight + tree.facts.weight }

/-- Puts a tree on the stack of a head, or nothing where the thread is lost. -/
def push (r : Readings) (v : Nat) (tree : Option Tree) (state : State) : Readings :=
  let below := (r.head v).frame
  let frame := frameOn below (r.frame below) tree state
  let n := r.frames.size
  let r := { r with frames := r.frames.push frame }
  r.setHead v fun h =>
    match tree with
    | none => { h with frame := n, mark := frame.nodes }
    | some _ => { h with frame := n }

/-- Puts trees on the stack of a head, all in one state. -/
def pushAll (r : Readings) (v : Nat) (trees : List Tree) (state : State) : Readings :=
  trees.foldl (fun r tree => r.push v (some tree) state) r

/-- A new head at a frame, which takes over from a head what it knows of faults. -/
def fork (r : Readings) (v frame : Nat) : Readings × Nat :=
  let head : Head := ⟨frame, .active, (r.head v).mark, none⟩
  ({ r with heads := r.heads.push head }, r.count)

/-- Puts a head in the place of another. -/
def renumber (r : Readings) (v target : Nat) : Readings :=
  if v == target then r
  else
    let head := r.head v
    let retreats := head.retreats <|> (r.head target).retreats
    let r := r.setHead target fun _ => { head with retreats := retreats }
    r.drop v

/-! ## §B Merging -/

/-- Whether two frames differ in nothing that reading on can show. -/
def sameFrame (a b : Frame) : Bool :=
  a.spot.index == b.spot.index && a.cost == b.cost && a.state == b.state

/-- The weight of the tree of a link. -/
def linkWeight (link : Link) : Int := (link.tree.map fun t => t.facts.weight).getD 0

/-- The number of nodes in the tree of a link. -/
def linkCount (link : Link) : Nat := (link.tree.map Tree.count).getD 0

/-- Whether the trees of two links are alike. -/
def linksAlike (a b : Link) : Bool :=
  match a.tree, b.tree with
  | none, none => true
  | some s, some t => Tree.alike s t
  | _, _ => false

/-- What becomes of a new link of a frame. -/
inductive Fit where
  /-- The frame has a link to the same frame with a tree alike, at that place. -/
  | known (place : Nat)
  /-- The frame has a link to a frame that is as good as the same. -/
  | joins (frame : Nat)
  | new

/-- How a link fits with those that a frame has. -/
def fit (r : Readings) (link : Link) : Nat → List Link → Fit
  | _, [] => .new
  | n, old :: links =>
    if linksAlike old link then
      if old.frame == link.frame then .known n
      else if sameFrame (r.frame old.frame) (r.frame link.frame) then .joins old.frame
      else fit r link (n + 1) links
    else fit r link (n + 1) links

/-- The most links that a frame has. -/
def maxLinks : Nat := 8

/-- Adds a link to a frame. Links that are as good as the same become one, down the stack. -/
def addLink : Nat → Readings → Nat → Link → Readings
  | 0, r, _, _ => r
  | fuel + 1, r, n, link =>
    if link.frame == n then r
    else
      let below := r.frame link.frame
      let weight := below.weight + linkWeight link
      match fit r link 0 (r.frame n).links with
      | .known place =>
        r.setFrame n fun f =>
          match f.links[place]? with
          | some old =>
            if linkWeight old < linkWeight link then
              { f with links := f.links.set place link, weight := weight }
            else f
          | none => f
      | .joins other =>
        let r := below.links.foldl (fun r link => addLink fuel r other link) r
        r.setFrame n fun f => { f with weight := max f.weight weight }
      | .new =>
        r.setFrame n fun f =>
          if f.links.length == maxLinks then f
          else
            { f with
              links := f.links ++ [link]
              nodes := max f.nodes (below.nodes + linkCount link)
              weight := max f.weight weight }

/-- Whether two heads can become one. -/
def canMerge (r : Readings) (v w : Nat) : Bool :=
  r.isActive v && r.isActive w && sameFrame (r.top v) (r.top w)

/-- Makes two heads one; the second one is dropped. -/
def merge (r : Readings) (v w : Nat) : Readings :=
  let n := (r.head v).frame
  let r := (r.top w).links.foldl (fun r link => addLink r.frames.size r n link) r
  let frame := r.frame n
  let r := if frame.state.isLost then r.setHead v fun h => { h with mark := frame.nodes } else r
  r.drop w

/-- The first of the given heads that a head can be merged into. -/
def partner? (r : Readings) (w : Nat) (heads : List Nat) : Option Nat :=
  heads.find? fun v => r.canMerge v w

/-! ## §C Unwinding -/

/-- How far to unwind. -/
inductive Depth where
  /-- That many trees, extra ones not counted. -/
  | trees (n : Nat)
  | bottom
  /-- One tree, if it is a fault. -/
  | fault

/-- A way down a stack: the frame reached, the trees passed in the order of the text, and how many
of them count. -/
structure Way where
  frame : Nat
  trees : List Tree
  count : Nat

/-- What was taken off, with the head that is left of it. -/
structure Slice where
  trees : List Tree
  head : Nat
deriving Inhabited

/-- The most ways that are followed at once. -/
def maxWays : Nat := 64

/-- The way on along a link. -/
def Way.along (way : Way) (link : Link) : Way :=
  match link.tree with
  | none => ⟨link.frame, way.trees, way.count + 1⟩
  | some tree => ⟨link.frame, tree :: way.trees, if tree.extra then way.count else way.count + 1⟩

/-- Puts a slice behind the last one that ended at the same frame. -/
def placeSlice (r : Readings) (frame : Nat) (trees : List Tree) : List Slice → Option (List Slice)
  | [] => none
  | slice :: slices =>
    match placeSlice r frame trees slices with
    | some slices => some (slice :: slices)
    | none =>
      if (r.head slice.head).frame == frame then some (slice :: ⟨trees, slice.head⟩ :: slices)
      else none

/-- Unwinding under way: the readings, the slices so far, whether a fault has been found, the ways
that go on, and the ways that have branched off. -/
structure Unwinding where
  readings : Readings
  slices : List Slice
  found : Bool
  /-- The ways that go on, the last first. -/
  kept : List Way
  /-- The ways that have branched off, the last first. -/
  branched : List Way
  /-- The number of ways in all. -/
  ways : Nat

/-- Whether a way ends, and whether what it has passed is taken. -/
def ends (depth : Depth) (found : Bool) (links : List Link) (way : Way) : Bool × Bool :=
  let (stops, takes) :=
    match depth with
    | .trees n => (way.count == n, way.count == n)
    | .bottom => (false, links.isEmpty)
    | .fault =>
      match way.trees with
      | [] => (false, false)
      | tree :: _ => (true, !found && tree.label == .fault)
  (stops || links.isEmpty, takes)

/-- Takes a way one frame further. -/
def Unwinding.step (depth : Depth) (v : Nat) (u : Unwinding) (way : Way) : Unwinding :=
  let links := (u.readings.frame way.frame).links
  let (stops, takes) := ends depth u.found links way
  let u :=
    if takes then
      match placeSlice u.readings way.frame way.trees u.slices with
      | some slices => { u with slices := slices, found := true }
      | none =>
        let (readings, head) := u.readings.fork v way.frame
        { u with
          readings := readings, slices := u.slices ++ [⟨way.trees, head⟩], found := true }
    else u
  if stops then { u with ways := u.ways - 1 }
  else
    match links with
    | [] => u
    | first :: others =>
      let branched := (others.take (maxWays - u.ways)).map way.along
      { u with
        kept := way.along first :: u.kept
        branched := branched.reverse ++ u.branched
        ways := u.ways + branched.length }

/-- Takes all ways further until none goes on. -/
def unwindAll (depth : Depth) (v : Nat) : Nat → Readings → List Slice → Bool → List Way →
    Readings × List Slice
  | 0, r, slices, _, _ => (r, slices)
  | _ + 1, r, slices, _, [] => (r, slices)
  | fuel + 1, r, slices, found, way :: ways =>
    let u := (way :: ways).foldl (Unwinding.step depth v)
      ⟨r, slices, found, [], [], ways.length + 1⟩
    unwindAll depth v fuel u.readings u.slices u.found (u.kept.reverse ++ u.branched.reverse)

/-- Takes trees off the stack of a head, along all links. Every slice has a new head at the frame
where it ends; slices that end at one frame share a head and stand next to each other. -/
def unwind (r : Readings) (v : Nat) (depth : Depth) : Readings × List Slice :=
  unwindAll depth v (r.frames.size + 1) r [] false [⟨(r.head v).frame, [], 0⟩]

/-! ## §D Retreats -/

/-- How deep down the stack frames to go back to are looked for. -/
def maxRetreat : Nat := 16

/-- Whether a frame is to be noted, given those noted already, the last first. -/
def isNew (depth : Nat) (state : State) : List Retreat → Bool
  | [] => true
  | old :: olds =>
    if old.depth < depth then true
    else if old.depth == depth && old.state == state then false
    else isNew depth state olds

/-- A way down the stack and how deep it is. -/
structure Descent where
  frame : Nat
  depth : Nat

/-- The way on along a link. -/
def Descent.along (d : Descent) (link : Link) : Descent :=
  match link.tree with
  | none => ⟨link.frame, d.depth + 1⟩
  | some tree => ⟨link.frame, if tree.extra then d.depth else d.depth + 1⟩

/-- Looking for retreats: those noted, the last first, the ways that go on and those that have
branched off, the last first, and the number of ways. -/
structure Scouting where
  noted : List Retreat
  kept : List Descent
  branched : List Descent
  ways : Nat

/-- Notes the frame of a way and takes it one frame further. -/
def scoutStep (r : Readings) (s : Scouting) (d : Descent) : Scouting :=
  let frame := r.frame d.frame
  if maxRetreat < d.depth then { s with ways := s.ways - 1 }
  else
    let noted :=
      if isNew d.depth frame.state s.noted then ⟨frame.spot, d.depth, frame.state⟩ :: s.noted
      else s.noted
    match frame.links with
    | [] => { s with noted := noted, ways := s.ways - 1 }
    | first :: others =>
      let branched := (others.take (maxWays - s.ways)).map d.along
      { noted := noted
        kept := d.along first :: s.kept
        branched := branched.reverse ++ s.branched
        ways := s.ways + branched.length }

/-- Takes all ways further until none goes on. -/
def scoutAll (r : Readings) : Nat → List Retreat → List Descent → List Retreat
  | 0, noted, _ => noted.reverse
  | _ + 1, noted, [] => noted.reverse
  | fuel + 1, noted, d :: ds =>
    let s := (d :: ds).foldl (scoutStep r) ⟨noted, [], [], ds.length + 1⟩
    scoutAll r fuel s.noted (s.kept.reverse ++ s.branched.reverse)

/-- Notes the frames that a head could go back to, the nearest first. -/
def noteRetreats (r : Readings) (v : Nat) : Readings :=
  let retreats := scoutAll r (r.frames.size + 1) [] [⟨(r.head v).frame, 0⟩]
  r.setHead v fun h => { h with retreats := some retreats }

end Readings

end RollCall.Grammar
