/-!
# RollCall.Source.Word — blanks and reserved words of Go source text
-/

namespace RollCall.Source

/-- The blanks of source text, the newline among them. -/
def isSpace (c : Char) : Bool := c == ' ' || (9 ≤ c.toNat && c.toNat ≤ 13)

/-- The words that are always keywords. -/
def reservedWords : List String :=
  ["break", "default", "func", "interface", "select", "case", "defer", "go", "map", "struct",
   "chan", "else", "goto", "package", "switch", "const", "fallthrough", "if", "range", "type",
   "continue", "for", "import", "return", "var"]

end RollCall.Source
