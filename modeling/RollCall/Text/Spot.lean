/-!
# RollCall.Text.Spot — places in a text

A spot is a place between two characters. It carries the text behind it, so reading on from a spot
needs nothing else, and it knows how many characters and bytes stand in front of it and on which
line it is. Two spots of one text are the same place exactly when as many characters stand in front.
-/

namespace RollCall.Text

/-- A place in a text. Lines count from one. -/
structure Spot where
  /-- The text behind the spot. -/
  rest : List Char
  /-- The number of characters in front. -/
  index : Nat
  /-- The number of bytes in front. -/
  byte : Nat
  line : Nat
deriving Inhabited

namespace Spot

/-- The spot in front of a text. -/
def start (text : List Char) : Spot := ⟨text, 0, 0, 1⟩

/-- The spot behind the next character. -/
def next (s : Spot) : Spot :=
  match s.rest with
  | [] => s
  | c :: rest => ⟨rest, s.index + 1, s.byte + c.utf8Size, if c == '\n' then s.line + 1 else s.line⟩

/-- The spot behind the next `n` characters, or the end. -/
def skip : Nat → Spot → Spot
  | 0, s => s
  | n + 1, s => skip n s.next

/-- The text from a spot up to another. -/
def textTo (a b : Spot) : List Char := a.rest.take (b.index - a.index)

end Spot

end RollCall.Text
