import RollCall.Grammar.Table

/-!
# RollCall.Grammar.Kernel — how far productions have been read

A kernel lists the productions under way, each with how much of it has been read and with the tokens
that may follow it. From a kernel and the next token follow the moves: productions that may end
here, and whether the token can be taken. Where both are possible the ranks of the productions
decide; where they do not, both moves are kept and the readings are pursued side by side.

Productions that differ only in what lies behind count as one. The empty kernel is that of a reader
who has lost the thread.
-/

namespace RollCall.Grammar

/-- A production under way: `dot` symbols of it have been read, and tokens of `ahead` may follow
it. -/
structure Item where
  production : Nat
  dot : Nat
  ahead : TokenSet
deriving DecidableEq, Hashable, Inhabited

/-- The productions under way, shorter reads first. -/
abbrev Kernel := List Item

namespace Kernel

/-- Takes up an item in its place. -/
def insert (item : Item) : Kernel → Kernel
  | [] => [item]
  | other :: items =>
    if item.production == other.production && item.dot == other.dot then
      { other with ahead := other.ahead ||| item.ahead } :: items
    else if item.dot < other.dot || (item.dot == other.dot && item.production < other.production)
    then item :: other :: items
    else other :: insert item items

/-- The items without what may follow them. -/
def core (kernel : Kernel) : List (Nat × Nat) :=
  kernel.map fun item => (item.production, item.dot)

end Kernel

namespace Table

variable (t : Table)

/-- The symbol that an item expects next. -/
def expects? (item : Item) : Option Nat :=
  ((t.steps.getD item.production #[])[item.dot]?).map Step.symbol

/-- The tokens that may follow the symbol that an item expects next. -/
def behind (item : Item) : TokenSet :=
  match (t.steps.getD item.production #[])[item.dot + 1]? with
  | some step => t.firsts.getD step.symbol 0
  | none => item.ahead

/-- An item as its first twin. -/
def normal (item : Item) : Item :=
  { item with production := (t.twins.getD item.production #[]).getD item.dot item.production }

/-- The symbols that can come next. -/
def possible (kernel : Kernel) : TokenSet :=
  kernel.foldl (fun set item =>
    match t.expects? item with
    | none => set ||| item.ahead
    | some symbol => set ||| t.starts.getD symbol 0) 0

/-- The kernel after a symbol has been read; empty if no item expects it. -/
def after (kernel : Kernel) (symbol : Nat) : Kernel :=
  kernel.foldl (fun next item =>
    match t.expects? item with
    | none => next
    | some expected =>
      let next :=
        if expected == symbol then next.insert (t.normal { item with dot := item.dot + 1 })
        else next
      if expected < t.tokens then next
      else
        ((t.openings.getD expected #[]).getD symbol []).foldl (fun next opening =>
          let ahead :=
            if opening.passes then opening.ahead ||| t.behind item else opening.ahead
          next.insert (t.normal ⟨opening.production, 1, ahead⟩)) next) []

/-! ## §A Moves -/

/-- The productions that may end at a token, as far as they are known, with their rank and sides. -/
structure Endings where
  productions : List Nat
  rank : Int
  sides : List (Option Side)

/-- What can be done with a token. -/
structure Choices where
  /-- The productions that may end in front of it. -/
  endings : List Nat
  /-- Whether it can be taken. -/
  takes : Bool
  /-- Whether taking it only goes on with a run in another way than ending it does. -/
  again : Bool

/-- The last step that an item has read. -/
def lastStep? (item : Item) : Option (Step Nat) :=
  match item.dot with
  | 0 => none
  | n + 1 => (t.steps.getD item.production #[])[n]?

/-- The rank of an item, which is that of its last step. -/
def rankOf (item : Item) : Int := ((t.lastStep? item).map Step.rank).getD 0

/-- The side of an item, which is that of its last step. -/
def sideOf (item : Item) : Option Side := (t.lastStep? item).bind Step.side

/-- The items that are read to their end and that a token may follow. -/
def ended (kernel : Kernel) (token : Nat) : List Item :=
  kernel.filter fun item => (t.expects? item).isNone && item.ahead.testBit token

/-- The items that can go on with a token. -/
def goingOn (kernel : Kernel) (token : Nat) : List Item :=
  kernel.filter fun item =>
    match t.expects? item with
    | none => false
    | some symbol => (t.firsts.getD symbol 0).testBit token

/-- Takes up an item that is read to its end: only items of the highest rank count. -/
def addEnding (endings : Endings) (item : Item) : Endings :=
  let rank := t.rankOf item
  let side := t.sideOf item
  if endings.productions.isEmpty || endings.rank < rank then ⟨[item.production], rank, [side]⟩
  else if endings.rank == rank then
    ⟨endings.productions ++ [item.production], rank, side :: endings.sides⟩
  else endings

/-- What can be done with a token. -/
def choices (kernel : Kernel) (token : Nat) : Choices :=
  let done := t.ended kernel token
  let going := t.goingOn kernel token
  let endings := done.foldl (t.addEnding ·) ⟨[], 0, []⟩
  let both : Choices := ⟨endings.productions, !going.isEmpty, false⟩
  if done.isEmpty || going.isEmpty then both
  else
    let begun := going.filter fun item => item.dot != 0
    let partOf (item : Item) : Nat := ((t.productions[item.production]?).map Production.part).getD 0
    let parts := ((done ++ begun).map partOf).eraseDups
    let runOnly :=
      match parts with
      | [part] => t.isRun.getD part false
      | _ => false
    if runOnly then { both with again := true }
    else
      let higher := begun.any fun item => endings.rank < t.rankOf item
      let lower := begun.any fun item => t.rankOf item < endings.rank
      let ending : Choices := { both with takes := false }
      let taking : Choices := { both with endings := [] }
      if higher && !lower then taking
      else if lower && !higher then ending
      else if higher then both
      else if endings.sides.all (· == some .left) then ending
      else if endings.sides.all (· == some .right) then taking
      else both

/-! ## §B The first kernel -/

/-- The production that stands for the whole text. -/
def whole : Nat := t.productions.size - 1

/-- The kernel in front of a text. The text may be empty. -/
def first : Kernel :=
  let ahead := TokenSet.single 0
  let empty := t.productions.toList.findIdx fun p => p.part == t.tokens && p.steps.isEmpty
  [⟨empty, 0, ahead⟩, ⟨t.whole, 0, ahead⟩]

end Table

end RollCall.Grammar
