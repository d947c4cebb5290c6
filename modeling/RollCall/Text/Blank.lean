/-!
# RollCall.Text.Blank — white space, trimming and the pieces of a text

The white space of this library is the Unicode property White_Space: the tab-to-carriage-return
block, the space, and the wide and typographic spaces, but neither the zero width space U+200B nor
the byte order mark U+FEFF. Every trimming and every splitting at blanks goes through `isBlank`.

Text is worked on as a list of characters.
-/

namespace RollCall.Text

/-! ## §A Blanks -/

/-- The non-ASCII characters with the property White_Space. -/
def wideBlanks : List Nat :=
  [0x85, 0xA0, 0x1680, 0x2000, 0x2001, 0x2002, 0x2003, 0x2004, 0x2005, 0x2006, 0x2007, 0x2008,
   0x2009, 0x200A, 0x2028, 0x2029, 0x202F, 0x205F, 0x3000]

/-- White space in the sense of Unicode. -/
def isBlank (c : Char) : Bool :=
  c == ' ' || (9 ≤ c.toNat && c.toNat ≤ 13) || (0x80 ≤ c.toNat && wideBlanks.contains c.toNat)

/-- Drops the blanks at the end. -/
def trimEnd (cs : List Char) : List Char := (cs.reverse.dropWhile isBlank).reverse

/-- Drops the blanks at both ends. -/
def trim (cs : List Char) : List Char := trimEnd (cs.dropWhile isBlank)

/-! ## §B Pieces -/

/-- Cuts a text at every character of the class `p`: one piece more than there are such characters,
the cut characters themselves in no piece. -/
def pieces (p : Char → Bool) : List Char → List (List Char)
  | [] => [[]]
  | c :: cs =>
    if p c then [] :: pieces p cs
    else
      match pieces p cs with
      | [] => [[c]]
      | w :: ws => (c :: w) :: ws

/-- The lines of a text: its pieces between newlines. -/
def lines (cs : List Char) : List (List Char) := pieces (· == '\n') cs

/-- Writes lines with a newline between two of them. -/
def unlines (ls : List (List Char)) : List Char := ['\n'].intercalate ls

/-- The maximal runs without a blank. -/
def words (cs : List Char) : List (List Char) := (pieces isBlank cs).filter fun w => !w.isEmpty

/-- Every run of blanks becomes one space, and none is left at either end. -/
def collapse (cs : List Char) : List Char := [' '].intercalate (words cs)

/-- What follows `lead` in a text that starts with it. -/
def afterLead? : List Char → List Char → Option (List Char)
  | [], cs => some cs
  | _ :: _, [] => none
  | l :: ls, c :: cs => if l == c then afterLead? ls cs else none

/-- What stands before `tail` in a text that ends with it. -/
def beforeTail? (tail cs : List Char) : Option (List Char) :=
  (afterLead? tail.reverse cs.reverse).map List.reverse

/-- The text before and after the first character of the class `p`. -/
def cutAt? (p : Char → Bool) : List Char → Option (List Char × List Char)
  | [] => none
  | c :: cs => if p c then some ([], cs) else (cutAt? p cs).map fun (a, b) => (c :: a, b)

/-- A string with nothing but blanks in it. -/
def isVoid (s : String) : Bool := s.toList.all isBlank

end RollCall.Text
