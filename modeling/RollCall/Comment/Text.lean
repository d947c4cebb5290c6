import RollCall.Text.Blank

/-!
# RollCall.Comment.Text — the text of a group of comments

A line comment gives one line, less its slashes and one space after them; a block comment gives the
lines between its markers. Line comments that address a tool (`//go:generate`, `//line …`) give
nothing. Every line loses the blanks at its end, blank lines at the start and at the end are
dropped, a run of blank lines becomes one, and a text that is not empty ends with a newline.
-/

namespace RollCall.Comment

open RollCall.Text

/-- A lower case letter or digit of ASCII, of which the name of a directive consists. -/
def isDirectiveChar (c : Char) : Bool := c.isLower || c.isDigit

/-- Whether the text after `//` addresses a tool: the words `line`, `extern` and `export` before a
space, or a name and a colon with a name character right behind it. -/
def isDirective (rest : List Char) : Bool :=
  (afterLead? "line ".toList rest).isSome
    || (afterLead? "extern ".toList rest).isSome
    || (afterLead? "export ".toList rest).isSome
    || match cutAt? (· == ':') rest with
      | some (head, c :: _) => !head.isEmpty && head.all isDirectiveChar && isDirectiveChar c
      | _ => false

/-- The lines that one comment contributes, from its source text. -/
def rawLines (comment : List Char) : List (List Char) :=
  match comment with
  | '/' :: '/' :: rest =>
    if isDirective rest then []
    else
      match rest with
      | ' ' :: rest => [rest]
      | rest => [rest]
  | '/' :: '*' :: body => lines ((beforeTail? ['*', '/'] body).getD body)
  | _ => []

/-- Drops blank lines at the start and all but one of each run of them. The flag tells whether the
line before was blank or there is none. -/
def squeeze : Bool → List (List Char) → List (List Char)
  | _, [] => []
  | afterBlank, l :: ls =>
    if l.isEmpty then if afterBlank then squeeze true ls else l :: squeeze true ls
    else l :: squeeze false ls

/-- Drops blank lines at the end. -/
def dropLastBlanks (ls : List (List Char)) : List (List Char) :=
  (ls.reverse.dropWhile List.isEmpty).reverse

/-- The lines of a group of comments, in normal form. -/
def normalLines (comments : List (List Char)) : List (List Char) :=
  dropLastBlanks (squeeze true ((comments.flatMap rawLines).map trimEnd))

/-- The text of a group of comments, as characters. -/
def textChars (comments : List (List Char)) : List Char :=
  match normalLines comments with
  | [] => []
  | ls => unlines ls ++ ['\n']

/-- The text of a group of comments, from their source texts. -/
def text (comments : List String) : String :=
  String.ofList (textChars (comments.map String.toList))

end RollCall.Comment
