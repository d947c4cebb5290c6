import RollCall.Source.Outline
import RollCall.Source.Word
import RollCall.Text.Identifier

/-!
# RollCall.Source.Plain.Token — the tokens of plain files

A plain file holds a package clause, type declarations and comments, and no more. `tokens?` cuts
such a file into tokens; it gives up at anything that plain files do not have. Newlines and comments
are tokens too, blanks are not. The last token is the end of the file.
-/

namespace RollCall.Source.Plain

open RollCall.Text (Spot)

/-- The keywords of plain files. -/
inductive Keyword where
  | package
  | type
  | map
  | chan
  | struct
  | interface
  | func
deriving DecidableEq, Repr

/-- What a token is. -/
inductive Shape where
  | name
  | keyword (k : Keyword)
  /-- A whole number in decimal digits. -/
  | number
  | sign (c : Char)
  | dots
  | newline
  | remark
  | finish
deriving DecidableEq, Repr

/-- A token and where it stands. -/
structure Token where
  shape : Shape
  start : Spot
  stop : Spot

namespace Keyword

/-- The keywords with their words. -/
def words : List (String × Keyword) :=
  [("package", .package), ("type", .type), ("map", .map), ("chan", .chan), ("struct", .struct),
   ("interface", .interface), ("func", .func)]

/-- The word of a keyword. -/
def word : Keyword → String
  | .package => "package"
  | .type => "type"
  | .map => "map"
  | .chan => "chan"
  | .struct => "struct"
  | .interface => "interface"
  | .func => "func"

end Keyword

/-- The kind of the node of a token that has no name of its own. -/
def Shape.kind : Shape → Kind
  | .name => .name
  | .keyword k => .other k.word
  | .number => .other "int_literal"
  | .sign c => .other (String.singleton c)
  | .dots => .other "..."
  | .newline => .other "\n"
  | .remark => .comment
  | .finish => .other "\x00"

namespace Token

/-- A token as a node of the given kind and role. -/
def node (t : Token) (kind : Kind) (role : Option Role) : Outline :=
  .node kind role false t.start t.stop []

/-- A token as a node. -/
def leaf (t : Token) : Outline := t.node t.shape.kind none

end Token

/-! ## §A One token -/

/-- The signs of plain files. -/
def signs : List Char := ['(', ')', '[', ']', '{', '}', '*', '.', ',', ';', '=']

/-- A word as a name or a keyword. Keywords that plain files do not have are no tokens. -/
def wordShape? (word : String) : Option Shape :=
  match Keyword.words.lookup word with
  | some k => some (.keyword k)
  | none => if reservedWords.contains word then none else some .name

/-- The length of a comment behind the slash and star that open it. -/
def closedAt? : List Char → Option Nat
  | '*' :: '/' :: _ => some 2
  | _ :: cs => (closedAt? cs).map (· + 1)
  | [] => none

/-- Whether a number can end in front of a text. -/
def endsNumber : List Char → Bool
  | [] => true
  | c :: _ => !Text.isNameContinue c && c != '.'

/-- The shape and the length of the token at the front of a text that starts with neither a blank
nor a newline. -/
def front? (c : Char) (cs : List Char) : Option (Shape × Nat) :=
  if Text.isNameStart c then
    let word := c :: cs.takeWhile Text.isNameContinue
    (wordShape? (String.ofList word)).map fun shape => (shape, word.length)
  else if c.isDigit then
    let digits := c :: cs.takeWhile Char.isDigit
    let rest := cs.dropWhile Char.isDigit
    if endsNumber rest && (c != '0' || digits.length == 1) then some (.number, digits.length)
    else none
  else
    match c, cs with
    | '/', '/' :: rest => some (.remark, 2 + (rest.takeWhile (· != '\n')).length)
    | '/', '*' :: rest => (closedAt? rest).map fun n => (.remark, 2 + n)
    | '.', '.' :: '.' :: _ => some (.dots, 3)
    | '.', d :: _ => if d.isDigit then none else some (.sign '.', 1)
    | c, _ => if signs.contains c then some (.sign c, 1) else none

/-! ## §B All tokens -/

/-- The tokens behind a spot. Every token is at least one character long. -/
def tokensFrom : Nat → Spot → Option (List Token)
  | 0, _ => none
  | fuel + 1, s =>
    match s.rest with
    | [] => some [⟨.finish, s, s⟩]
    | c :: cs =>
      if c == '\n' then (tokensFrom fuel s.next).map (⟨.newline, s, s.next⟩ :: ·)
      else if isSpace c then tokensFrom fuel s.next
      else
        (front? c cs).bind fun (shape, n) =>
          (tokensFrom fuel (s.skip n)).map (⟨shape, s, s.skip n⟩ :: ·)

/-- The tokens of a plain file. -/
def tokens? (source : List Char) : Option (List Token) :=
  tokensFrom (source.length + 1) (Spot.start source)

end RollCall.Source.Plain
