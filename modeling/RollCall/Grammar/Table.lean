import RollCall.Grammar.Rule

/-!
# RollCall.Grammar.Table — a grammar with numbered symbols

`Table.ofRules` numbers the symbols of a grammar, tokens first, and works out what reading needs to
know: the tokens that a part can start with, and for every part and symbol the productions that may
begin there with that symbol. Sets of tokens are numbers, one bit for each token.

No part but the whole text may be empty.
-/

namespace RollCall.Grammar

/-- A set of tokens or other symbols by their numbers. -/
abbrev TokenSet := Nat

namespace TokenSet

/-- The set of one symbol. -/
def single (symbol : Nat) : TokenSet := (1 : Nat) <<< symbol

/-- The set of several symbols. -/
def ofList (symbols : List Nat) : TokenSet :=
  symbols.foldl (fun set symbol => set ||| single symbol) 0

end TokenSet

/-- A production that may begin where a part is expected. -/
structure Opening where
  production : Nat
  /-- Tokens that can follow the production whatever follows the part. -/
  ahead : TokenSet
  /-- Whether what follows the part can follow the production too. -/
  passes : Bool
deriving Inhabited

/-- A grammar with numbered symbols. -/
structure Table where
  /-- The names of the symbols, tokens first. -/
  names : Array String
  /-- The number of tokens. -/
  tokens : Nat
  /-- The productions. The last one stands for the whole text and has the first part as its only
  step. -/
  productions : Array (Production Nat)
  /-- The steps of every production. -/
  steps : Array (Array (Step Nat))
  /-- Whether what is read as a symbol stays out of the tree. -/
  hidden : Array Bool
  /-- Whether a part is a run. -/
  isRun : Array Bool
  /-- Whether a part only gathers other parts under one name. -/
  gathers : Array Bool
  /-- The tokens that a symbol can start with. -/
  firsts : Array TokenSet
  /-- By part and first symbol, the productions that may begin there. -/
  openings : Array (Array (List Opening))
  /-- The symbols that a symbol can start with, itself included. -/
  starts : Array TokenSet
  /-- By production and number of steps, the first production that goes on alike from there. -/
  twins : Array (Array Nat)
  /-- The first production that makes the same nodes. -/
  models : Array Nat
deriving Inhabited

namespace Table

/-! ## §A Numbering -/

/-- The number of a symbol. -/
def numberIn (tokens parts : List String) : Symbol → Nat
  | .token name => tokens.idxOf name
  | .part name => tokens.length + parts.idxOf name

/-- A production with numbered symbols. -/
def numbered (number : Symbol → Nat) (p : Production Symbol) : Production Nat where
  part := number p.part
  steps := p.steps.map fun s => ⟨number s.symbol, s.rank, s.side, s.name, s.role⟩
  weight := p.weight

/-- The order in which productions are tried: by part, then lighter and shorter ones first. -/
def before (p q : Production Nat) : Bool :=
  p.part < q.part ||
    (p.part == q.part &&
      (p.weight < q.weight || (p.weight == q.weight && p.steps.length ≤ q.steps.length)))

/-! ## §B First tokens -/

/-- The first tokens of a production, given those of every symbol. -/
def firstOf (firsts : Array TokenSet) (p : Production Nat) : TokenSet :=
  match p.steps with
  | [] => 0
  | step :: _ => firsts.getD step.symbol 0

/-- Adds the first tokens of every production to those of its part. -/
def growFirsts (productions : List (Production Nat)) (firsts : Array TokenSet) : Array TokenSet :=
  productions.foldl (fun firsts p => firsts.modify p.part (· ||| firstOf firsts p)) firsts

/-- The first tokens of every symbol, after that many rounds. -/
def firstsAfter (productions : List (Production Nat)) : Nat → Array TokenSet → Array TokenSet
  | 0, firsts => firsts
  | n + 1, firsts => firstsAfter productions n (growFirsts productions firsts)

/-! ## §C Openings -/

/-- What is known of a part that may begin where another one is expected. -/
structure Corner where
  ahead : TokenSet
  passes : Bool
deriving DecidableEq

/-- Takes up that a part may begin with the given tokens behind it. Nothing is given back if that is
known already. -/
def learn (corner : Corner) (known : Option Corner) : Option Corner :=
  match known with
  | none => some corner
  | some old =>
    let both : Corner := ⟨old.ahead ||| corner.ahead, old.passes || corner.passes⟩
    if both = old then none else some both

/-- Follows the first parts of productions, from the parts still to be looked at. -/
def follow (tokens : Nat) (firsts : Array TokenSet) (byPart : Array (List (Nat × Production Nat))) :
    Nat → List (Nat × Corner) → Array (Option Corner) → Array (Option Corner)
  | 0, _, known => known
  | _ + 1, [], known => known
  | fuel + 1, (part, corner) :: work, known =>
    match learn corner (known.getD part none) with
    | none => follow tokens firsts byPart fuel work known
    | some corner =>
      let more := (byPart.getD part []).filterMap fun (_, p) =>
        match p.steps with
        | [] => none
        | [step] => if step.symbol < tokens then none else some (step.symbol, corner)
        | step :: second :: _ =>
          if step.symbol < tokens then none
          else some (step.symbol, ⟨firsts.getD second.symbol 0, false⟩)
      follow tokens firsts byPart fuel (more ++ work) (known.setIfInBounds part (some corner))

/-- The productions that may begin where a part is expected, by their first symbol. -/
def openingsOf (symbols : Nat) (byPart : Array (List (Nat × Production Nat)))
    (known : Array (Option Corner)) : Array (List Opening) :=
  let add (table : Array (List Opening)) (part : Nat) : Array (List Opening) :=
    match known.getD part none with
    | none => table
    | some corner =>
      (byPart.getD part []).foldl (fun table (n, p) =>
        match p.steps with
        | [] => table
        | step :: _ => table.modify step.symbol (⟨n, corner.ahead, corner.passes⟩ :: ·)) table
  (List.range symbols).foldl add (Array.replicate symbols [])

/-! ## §D Productions alike -/

/-- What a step says of its place in a node. -/
def label (step : Step Nat) : Option String × Option String := (step.name, step.role)

/-- Whether two productions make the same nodes. -/
def sameNodes (p q : Production Nat) : Bool :=
  p.part == q.part && p.weight == q.weight && p.steps.map label == q.steps.map label

/-- Whether two productions go on alike after a number of steps: the steps before may differ in
their symbols, and in their ranks but for the last. -/
def sameFrom (dot : Nat) (p q : Production Nat) : Bool :=
  let last (p : Production Nat) : Option (Int × Option Side) :=
    ((p.steps.take dot).getLast?).map fun step => (step.rank, step.side)
  sameNodes p q && last p == last q && p.steps.drop dot == q.steps.drop dot

/-- The number of the first production that a test holds of, or another number. -/
def firstThat (productions : List (Nat × Production Nat)) (test : Production Nat → Bool)
    (other : Nat) : Nat :=
  ((productions.find? fun (_, p) => test p).map Prod.fst).getD other

/-! ## §E The table -/

/-- The token that stands for the end of the text. It is the first of all. -/
def endMark : String := "end"

/-- The table of a grammar: the end mark and `tokens` are numbered first, then the tokens of the
rules, then `later`. The first rule is the rule of the whole text. What is read as a run, or as a
part whose name starts with an underscore, stays out of the tree. -/
def ofRules (tokens later gathering : List String) (rules : List (String × Rule)) : Table :=
  let mentioned := rules.flatMap fun (_, rule) => rule.tokens
  let tokens := (endMark :: tokens ++ mentioned).eraseDups ++ later
  let runs := ((rules.flatMap fun (_, rule) => rule.runs).map Prod.fst).eraseDups
  let items := rules.flatMap fun (_, rule) => rule.runs
  let runRules := runs.filterMap fun name =>
    (items.find? fun (n, _) => n == name).map fun (n, item) => (n, Rule.ofRun n item)
  let all := rules ++ runRules
  let parts := all.map Prod.fst
  let number := numberIn tokens parts
  let productions := ((all.flatMap fun (name, rule) => rule.productions name).map
    (numbered number)).mergeSort before
  let symbols := tokens.length + parts.length
  let whole : Production Nat := ⟨symbols, [⟨tokens.length, 0, none, none, none⟩], 0⟩
  let single := (List.range symbols).map fun s =>
    if s < tokens.length then TokenSet.single s else 0
  let firsts := firstsAfter productions parts.length single.toArray
  let byPart := productions.zipIdx.foldl
    (fun (byPart : Array (List (Nat × Production Nat))) (p, n) =>
      byPart.modify p.part ((n, p) :: ·)) (Array.replicate symbols [])
  let openings := (List.range symbols).map fun s =>
    if s < tokens.length then #[]
    else
      openingsOf symbols byPart <|
        follow tokens.length firsts byPart (symbols * symbols) [(s, ⟨0, true⟩)]
          (Array.replicate symbols none)
  let starts := openings.zipIdx.map fun (byFirst, symbol) =>
    TokenSet.ofList (symbol :: (List.range symbols).filter fun s => !(byFirst.getD s []).isEmpty)
  let kin (p : Production Nat) : List (Nat × Production Nat) := (byPart.getD p.part []).reverse
  let twins := (productions.zipIdx).map fun (p, n) =>
    ((List.range (p.steps.length + 1)).map fun dot =>
      firstThat (kin p) (sameFrom dot p) n).toArray
  let models := productions.zipIdx.map fun (p, n) => firstThat (kin p) (sameNodes p) n
  { names := (tokens ++ parts).toArray
    tokens := tokens.length
    productions := (productions ++ [whole]).toArray
    steps := ((productions ++ [whole]).map fun p => p.steps.toArray).toArray
    hidden := (tokens.map (· == endMark) ++
      parts.map fun name => name.startsWith "_" || runs.contains name).toArray
    isRun := (tokens.map (fun _ => false) ++ parts.map runs.contains).toArray
    gathers := (tokens.map (fun _ => false) ++ parts.map gathering.contains).toArray
    firsts := firsts
    openings := openings.toArray
    starts := starts.toArray
    twins := twins.toArray
    models := models.toArray }

/-- The number of a token. -/
def token (t : Table) (name : String) : Nat := t.names.toList.idxOf name

end Table

end RollCall.Grammar
