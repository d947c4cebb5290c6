import RollCall.Grammar.Language

/-!
# RollCall.Grammar.Repair — reading on where a text does not fit

When a token fits no reading the text is repaired in the cheapest way. First every production is
ended that may end, whatever follows. Then a token that is missing in front of the one that does not
fit is put in, if reading can go on behind it. And the thread is lost: from then on tokens are
skipped until one of them fits a frame further down the stack; the trees above that frame become a
fault.

All of these are further readings side by side. A reading is given up when another one has come as
far at a clearly lower cost.
-/

namespace RollCall.Grammar

open RollCall.Text (Spot)

/-! ## §A Comparing readings -/

/-- How well a reading does. -/
structure Standing where
  cost : Nat
  /-- The number of nodes since the last fault. -/
  since : Nat
  weight : Int
  /-- Whether the reading is paused or has lost the thread. -/
  astray : Bool
deriving DecidableEq

/-- Which of two readings is better. -/
inductive Verdict where
  /-- The first one, and the other is to be given up. -/
  | first
  | ratherFirst
  | neither
  | ratherSecond
  | second
deriving DecidableEq

namespace Standing

/-- How much a lead in cost, times the nodes read since the last fault, has to be before the other
reading is given up. -/
def clearLead : Nat := 1800

/-- Which of two readings is better. -/
def verdict (a b : Standing) : Verdict :=
  if !a.astray && b.astray then if a.cost < b.cost then .first else .ratherFirst
  else if a.astray && !b.astray then if b.cost < a.cost then .second else .ratherSecond
  else if a.cost < b.cost then
    if clearLead < (b.cost - a.cost) * (1 + a.since) then .first else .ratherFirst
  else if b.cost < a.cost then
    if clearLead < (a.cost - b.cost) * (1 + b.since) then .second else .ratherSecond
  else if b.weight < a.weight then .ratherFirst
  else if a.weight < b.weight then .ratherSecond
  else .neither

end Standing

namespace Readings

/-- The cost of a reading so far, with that of a fault that is not yet a tree. -/
def cost (r : Readings) (v : Nat) : Nat :=
  let frame := r.top v
  let isOpen :=
    match (r.head v).status, frame.links with
    | .paused _, _ => true
    | _, link :: _ => frame.state.isLost && link.tree.isNone
    | _, [] => false
  if isOpen then frame.cost + Tree.faultCost else frame.cost

/-- Lowers the mark of the last fault of a head to the nodes that are left below it. -/
def settle (r : Readings) (v : Nat) : Readings :=
  let nodes := (r.top v).nodes
  r.setHead v fun h => { h with mark := min h.mark nodes }

/-- The number of nodes since the last fault. -/
def since (r : Readings) (v : Nat) : Nat := (r.top v).nodes - (r.head v).mark

/-- Whether a head is paused. -/
def isPaused (r : Readings) (v : Nat) : Bool :=
  match (r.head v).status with
  | .paused _ => true
  | _ => false

/-- How well a reading does. -/
def standing (r : Readings) (v : Nat) : Standing :=
  let frame := r.top v
  let extra := if r.isPaused v then Tree.skipCost else 0
  ⟨r.cost v + extra, r.since v, frame.weight, r.isPaused v || frame.state.isLost⟩

/-- Whether one of the heads does clearly better than a head would at the given cost. -/
def someBetter (v : Nat) (cost : Nat) : List Nat → Readings → Readings × Bool
  | [], r => (r, false)
  | w :: ws, r =>
    if w == v || !r.isActive w || (r.top w).spot.index < (r.top v).spot.index then
      someBetter v cost ws r
    else
      let r := r.settle w
      let mine : Standing := ⟨cost, r.since v, (r.top v).weight, false⟩
      match mine.verdict (r.standing w) with
      | .second => (r, true)
      | .ratherSecond => if r.canMerge w v then (r, true) else someBetter v cost ws r
      | _ => someBetter v cost ws r

/-- Whether it is not worth while for a head to go on at the given cost. -/
def isOutdone (r : Readings) (v cost : Nat) : Readings × Bool :=
  let finished :=
    match r.finished with
    | some tree => decide (tree.facts.cost ≤ cost)
    | none => false
  if finished then (r, true) else someBetter v cost (List.range r.count) (r.settle v)

variable (l : Language)

/-! ## §B Ending whatever may end -/

/-- The productions that may end at some of the tokens, and whether one of the tokens can be taken.
Of productions of one part and one length the first counts. -/
def endingsAmong (state : State) :
    List Nat → List ((Nat × Nat) × Nat) → Bool → List ((Nat × Nat) × Nat) × Bool
  | [], endings, takes => (endings, takes)
  | token :: tokens, endings, takes =>
    let moves := l.automaton.moves state token
    let endings := moves.endings.foldl (fun endings production =>
      match l.table.productions[production]? with
      | none => endings
      | some p =>
        let key := (p.part, p.steps.length)
        if p.steps.isEmpty || production == l.table.whole || endings.any (·.1 == key) then endings
        else endings ++ [(key, production)]) endings
    endingsAmong state tokens endings (takes || (moves.takes && !moves.again))

/-- The tokens other than the end of the text and comments. -/
def plainTokens : List Nat :=
  ((List.range l.table.tokens).drop 1).filter (· != l.comment)

/-- Ends productions of a head and of the heads that this makes, as long as one of the tokens cannot
be taken. `token` is the token that has to follow, if it is not to be any one. A head that the token
fits in no way is dropped. The last value says whether some head can take one of the tokens. -/
def endAllFrom (origin first : Nat) (token : Option Nat) :
    Nat → Nat → Nat → Bool → Readings → Readings × Bool
  | 0, _, _, fits, r => (r, fits)
  | fuel + 1, round, v, fits, r =>
    let count := r.count
    if count ≤ v then (r, fits)
    else
      match r.partner? v ((List.range v).drop first) with
      | some u => endAllFrom origin first token fuel (round + 1) v fits (r.merge u v)
      | none =>
        let state := (r.top v).state
        let (endings, takes) :=
          if state.isLost then ([], true)
          else
            match token with
            | some token => endingsAmong l state [token] [] false
            | none => endingsAmong l state (plainTokens l) [] false
        let (r, made) := endings.foldl
          (fun (r, _) ending => reduce l r v ending.2) (r, (none : Option Nat))
        let next := if v == origin then count else v + 1
        if takes then endAllFrom origin first token fuel (round + 1) next true r
        else
          match made with
          | some w =>
            if round < maxHeads then
              endAllFrom origin first token fuel (round + 1) v fits (r.renumber w v)
            else
              let r := if token.isSome then r.drop v else r
              endAllFrom origin first token fuel (round + 1) next fits r
          | none =>
            let r := if token.isSome then r.drop v else r
            endAllFrom origin first token fuel (round + 1) next fits r

/-- Ends whatever may end on top of a head in front of a token; the end of the text stands for any
token. -/
def endAll (r : Readings) (v : Nat) (token : Option Nat) : Readings × Bool :=
  let token := token.filter (· != 0)
  endAllFrom l v r.count token (1000 * (r.frames.size + 1)) 0 v false r

/-! ## §C Skipping -/

/-- Takes the trees above a frame off and makes them a fault, with the trees of a fault right below
them. -/
def faultAt (goal : State) (w : Nat) (r : Readings) (trees : List Tree) : Readings :=
  let hasFault := (r.top w).links.any fun link =>
    (link.tree.map fun t => t.label == .fault).getD false
  let (r, trees) :=
    if hasFault then
      match r.unwind w .fault with
      | (r, slice :: _) =>
        let inner := (slice.trees.head?.map Tree.children).getD []
        (r.renumber slice.head w, inner ++ trees)
      | (r, []) => (r, trees)
    else (r, trees)
  let (children, extras) := Tree.splitExtras trees
  let r :=
    if children.isEmpty then r
    else
      r.push w (some (Tree.ofChildren l.table .fault none (Spot.start []) children).asExtra) goal
  r.pushAll w extras goal

/-- Goes back to a frame with the given state for every slice; whether one was found. -/
def retreatSlices (goal : State) :
    Option Nat → List Slice → Readings → Readings × Bool
  | last, [], r => (r, last.isSome)
  | last, slice :: slices, r =>
    if last == some slice.head then retreatSlices goal last slices r
    else if (r.top slice.head).state != goal then
      retreatSlices goal last slices (r.halt slice.head)
    else
      retreatSlices goal (some slice.head) slices (faultAt l goal slice.head r slice.trees)

/-- Goes back that deep, to a frame with the given state; whether there was one. -/
def retreatTo (r : Readings) (v depth : Nat) (goal : State) : Readings × Bool :=
  let (r, slices) := r.unwind v (.trees depth)
  retreatSlices l goal none slices r

/-- Goes back to the nearest frame that has something to do with a token, as long as that is worth
while; whether there was one. `since` says whether anything has been read since the fault. -/
def retreat (v : Nat) (since : Bool) (cost count : Nat) (token : Label) :
    List Retreat → Readings → Readings × Bool
  | [], r => (r, false)
  | option :: options, r =>
    let spot := (r.top v).spot
    let taken := (List.range count).any fun w =>
      (r.top w).spot.index == spot.index && (r.top w).state == option.state
    if option.state.isLost || option.spot.index == spot.index || taken then
      retreat v since cost count token options r
    else
      let newCost := cost + option.depth * Tree.skipCost + Tree.distance option.spot spot
      match isOutdone r v newCost with
      | (r, true) => (r, false)
      | (r, false) =>
        if l.accepts option.state token then
          let depth := if since then option.depth + 1 else option.depth
          match retreatTo l r v depth option.state with
          | (r, true) => (r, true)
          | (r, false) => retreat v since cost count token options r
        else retreat v since cost count token options r

/-- Drops the heads from a place on that are not active. -/
def dropIdle (first : Nat) (r : Readings) : Readings :=
  ((List.range r.count).reverse.filter fun v => first ≤ v && !r.isActive v).foldl drop r

/-- Skips a token of a head that has lost the thread. What has been skipped before is part of the
same scrap. -/
def skip (r : Readings) (v : Nat) (since : Bool) (token : Tree) : Readings :=
  let scrap (trees : List Tree) : Tree :=
    Tree.ofChildren l.table .scrap none (Spot.start []) trees
  let skipped := scrap [token]
  if since then
    match r.unwind v (.trees 1) with
    | (r, slice :: _) =>
      let r := { r with heads := r.heads.extract 0 (slice.head + 1) }
      let r := r.renumber slice.head v
      r.push v (some (scrap (slice.trees ++ [skipped]))) .lost
    | (r, []) => r.push v (some skipped) .lost
  else r.push v (some skipped) .lost

/-- Goes on with a head that has lost the thread, at a token that does not fit. -/
def recover (r : Readings) (v : Nat) (token : Tree) : Readings :=
  let count := r.count
  let r := r.settle v
  let since := 0 < r.since v
  let cost := r.cost v
  let (r, recovered) :=
    match (r.head v).retreats with
    | some options =>
      if token.label == Label.fault then (r, false)
      else retreat l v since cost count token.label options r
    | none => (r, false)
  let r := dropIdle count r
  if token.label == Label.symbol 0 then
    let fault := Tree.ofChildren l.table .fault none (r.top v).spot []
    accept l (r.push v (some fault) l.automaton.start) v token
  else if recovered && maxHeads < r.count then r.halt v
  else
    let newCost := cost + Tree.skipCost + Tree.distance token.facts.pad token.facts.stop
    match isOutdone r v newCost with
    | (r, true) => r.halt v
    | (r, false) => skip l r v since token

/-! ## §D A token that does not fit -/

/-- Puts in the first token with which a production ends in front of the given one and reading goes
on; whether there is one. -/
def putIn (v : Nat) (spot : Spot) (token : Label) : List Nat → Readings → Readings × Bool
  | [], r => (r, false)
  | missing :: tokens, r =>
    let top := r.top v
    let state := (l.automaton.moves top.state missing).next
    let ends :=
      if state.isLost || state == top.state then false
      else
        match (l.moves state token).endings with
        | production :: _ => production != l.table.whole
        | [] => false
    if ends then
      let (r, w) := r.fork v (r.head v).frame
      let r := r.push w (some (Tree.absent l.table missing spot)) state
      let number :=
        match token with
        | .symbol n => some n
        | _ => none
      match endAll l r w number with
      | (r, true) => (r, true)
      | (r, false) => putIn v spot token tokens r
    else putIn v spot token tokens r

/-- Loses the thread on a head and on those from `first` up to `count`; a token is put in on the
first of them where that helps. -/
def loseThread (origin first count : Nat) (spot : Spot) (token : Label) :
    Nat → Nat → Bool → Readings → Readings
  | 0, _, _, r => r
  | fuel + 1, v, done, r =>
    if count ≤ v then r
    else
      let (r, done) := if done then (r, true) else putIn l v spot token (plainTokens l) r
      let r := r.push v none .lost
      loseThread origin first count spot token fuel (if v == origin then first else v + 1) done r

/-- Merges a number of heads at one place into another. -/
def mergeMany (v w : Nat) : Nat → Readings → Readings
  | 0, r => r
  | n + 1, r =>
    if r.canMerge v w then mergeMany v w n (r.merge v w) else r

/-- Repairs the reading of a head at a token that does not fit. -/
def repair (r : Readings) (v : Nat) (token : Tree) : Readings :=
  let first := r.count
  let (r, _) := endAll l r v none
  let count := r.count
  let spot := (r.top v).spot
  let r := loseThread l v first count spot token.label (count + 2) v false r
  let r := mergeMany v first (count - first) r
  let r := r.noteRetreats v
  recover l r v token

end Readings

end RollCall.Grammar
