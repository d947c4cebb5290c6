import RollCall.Grammar.Repair

/-!
# RollCall.Grammar.Reader — reading a text by a grammar

Every reading is taken forward by one token in turn. Readings that have come to the same place in
the same state are merged, those that are outdone are given up, and when no reading fits the next
token the first of them is repaired. Every text can be read: what does not fit becomes a fault.

The number of rounds is bounded by a multiple of the length of the text. A round takes at least one
reading over a token, and only readings that are not outdone go on, so the bound is not met.
-/

namespace RollCall.Grammar

open RollCall.Text (Spot)

namespace Readings

variable (l : Language)

/-! ## §A One token -/

/-- Ends productions in front of a token in order; whether the text ended with one of them, and the
last head made. -/
def endInOrder (v : Nat) (token : Tree) :
    List Nat → Option Nat → Readings → Readings × Bool × Option Nat
  | [], made, r => (r, false, made)
  | production :: productions, made, r =>
    if production == l.table.whole then (accept l r v token, true, made)
    else
      let (r, new) := reduce l r v production
      endInOrder v token productions (new <|> made) r

/-- Takes a head over a token, or pauses it. When all that could be done was to end productions, and
the heads made so have been merged into others, the head has no more to do. -/
def takeToken (v : Nat) : Nat → Tree → Readings → Readings
  | 0, _, r => r.halt v
  | fuel + 1, token, r =>
    let state := (r.top v).state
    if token.label == .symbol l.comment then r.push v (some token.asExtra) state
    else if state.isLost then recover l r v token
    else
      let moves := l.moves state token.label
      let (r, isEnd, made) := endInOrder l v token moves.endings none r
      if isEnd then r
      else if moves.takes && !moves.again then
        r.push v (some token) moves.next
      else
        match made with
        | some w => takeToken v fuel token (r.renumber w v)
        | none =>
          if !moves.endings.isEmpty then r.halt v
          else if token.facts.word && l.accepts state (.symbol l.name) then
            let f := token.facts
            takeToken v fuel (Tree.leaf l.table (.symbol l.name) f.pad f.start f.stop) r
          else
            let nodes := (r.top v).nodes
            r.setHead v fun h => { h with status := .paused token, mark := nodes }

/-- Takes a head forward until it has come farther than all before, `farthest`. -/
def advance (v : Nat) : Nat → Nat → Readings → Readings × Nat
  | 0, farthest, r => (r.halt v, farthest)
  | fuel + 1, farthest, r =>
    if v < r.count && r.isActive v then
      let top := r.top v
      let token := l.next (l.automaton.expected top.state) top.spot
      let r := takeToken l v (1000 * (r.frames.size + 1)) token r
      if r.count ≤ v then (r, farthest)
      else
        let index := (r.top v).spot.index
        if farthest < index || (0 < v && index == farthest) then (r, index)
        else advance v fuel farthest r
    else (r, farthest)

/-- Takes all heads forward, from one on. -/
def advanceAll (bound : Nat) : Nat → Nat → Nat → Readings → Readings × Nat
  | 0, _, farthest, r => (r, farthest)
  | fuel + 1, v, farthest, r =>
    if v < r.count then
      let (r, farthest) := advance l v bound farthest r
      advanceAll bound fuel (v + 1) farthest r
    else (r, farthest)

/-! ## §B Giving up readings -/

/-- Puts two heads in each other's place. -/
def swap (r : Readings) (v w : Nat) : Readings :=
  let a := r.head v
  let b := r.head w
  (r.setHead v fun _ => b).setHead w fun _ => a

/-- Compares a head with those before it, from `w` on. Its standing is the one it had at first. The
place behind the head is given back, or its own if it has gone. -/
def weigh (mine : Standing) : Nat → Nat → Nat → Readings → Readings × Nat
  | 0, v, _, r => (r, v + 1)
  | fuel + 1, v, w, r =>
    if v ≤ w then (r, v + 1)
    else
      let r := r.settle w
      match (r.standing w).verdict mine with
      | .first => (r.drop v, v)
      | .second => weigh mine fuel (v - 1) w (r.drop w)
      | .ratherSecond =>
        if r.canMerge w v then (r.merge w v, v) else weigh mine fuel v (w + 1) (r.swap v w)
      | _ =>
        if r.canMerge w v then (r.merge w v, v) else weigh mine fuel v (w + 1) r

/-- Drops halted heads and those that are outdone; the least cost of a reading that is not astray is
given back. -/
def sift : Nat → Nat → Option Nat → Readings → Readings × Option Nat
  | 0, _, least, r => (r, least)
  | fuel + 1, v, least, r =>
    if r.count ≤ v then (r, least)
    else
      match (r.head v).status with
      | .halted => sift fuel v least (r.drop v)
      | _ =>
        let r := r.settle v
        let mine := r.standing v
        let least :=
          if mine.astray then least else some (least.elim mine.cost (min mine.cost))
        let (r, next) := weigh mine (2 * r.count + 2) v 0 r
        sift fuel next least r

/-- Repairs the first paused reading if no other one in front goes on; other paused ones are
dropped. -/
def resume : Nat → Nat → Bool → Option Nat → Readings → Readings × Option Nat
  | 0, _, _, least, r => (r, least)
  | fuel + 1, v, going, least, r =>
    if r.count ≤ v then (r, least)
    else
      match (r.head v).status with
      | .paused token =>
        if !going && r.accepts < maxHeads then
          let least := some (r.cost v)
          let r := r.setHead v fun h => { h with status := .active }
          resume fuel (v + 1) true least (repair l r v token)
        else resume fuel v going least (r.drop v)
      | _ => resume fuel (v + 1) true least r

/-- Leaves the readings that are worth pursuing; the least cost of one of them is given back. -/
def condense (r : Readings) : Readings × Option Nat :=
  let (r, least) := sift (4 * r.count + 4) 0 none r
  let r := { r with heads := r.heads.extract 0 maxHeads }
  resume l (1000 * (r.count + 1)) 0 false least r

/-! ## §C The whole text -/

/-- Reads on until no reading is left or none can be better than the best one. -/
def readOn (bound : Nat) : Nat → Nat → Readings → Option Tree
  | 0, _, r => r.finished
  | fuel + 1, farthest, r =>
    let (r, farthest) := advanceAll l bound (1000 * (r.count + 1)) 0 farthest r
    let (r, least) := condense l r
    let isEnd :=
      match r.finished, least with
      | some tree, some least => decide (tree.facts.cost < least)
      | some _, none => true
      | none, _ => false
    if isEnd || r.count == 0 then r.finished else readOn bound fuel farthest r

end Readings

/-- Reads a text. -/
def Language.read (l : Language) (text : List Char) : Option Tree :=
  let bound := 1000 * (text.length + 10)
  Readings.readOn l bound bound 0 (Readings.start l.automaton.start (Spot.start text))

end RollCall.Grammar
