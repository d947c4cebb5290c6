import RollCall.Grammar.Merging
import RollCall.Grammar.Reader
import RollCall.Source.Syntax
import RollCall.Source.Word
import RollCall.Text.Identifier
import RollCall.Text.Pattern
import RollCall.Text.Spot

/-!
# RollCall.Source.Lexeme — the tokens of Go source text

`scan` reads the next token among those that are looked for. Blanks in front of it are skipped; a
newline is one of them unless it is looked for itself. Of the tokens that fit, the longest one is
read. Inside of strings nothing is skipped.

A word reads as a keyword or as a name; `wordToken` tells which. The words that Go reserves are
always keywords, the others only where the grammar has a place for them.
-/

namespace RollCall.Source

open RollCall.Grammar
open RollCall.Text (Pattern Spot)

/-! ## §A Numbers of tokens -/

/-- The number of a token by its name. -/
def tokenNumber (name : String) : Nat := Syntax.table.token name

/-- The token of names. -/
def nameToken : Nat := tokenNumber "identifier"

/-- The token of comments. -/
def commentToken : Nat := tokenNumber "comment"

/-- The token of the end of a line. -/
def newlineToken : Nat := tokenNumber "\n"

/-- The token of a null character, and of the end of the text where something can end with it. -/
def nullToken : Nat := tokenNumber "\x00"

/-- The token of the text of a string. -/
def textToken : Nat := tokenNumber "text"

/-- The token of the quote at the end of a string. -/
def closingQuoteToken : Nat := tokenNumber "closing \""

/-- The token of the text of a raw string. -/
def rawTextToken : Nat := tokenNumber "raw text"

/-- The token of the quote at the end of a raw string. -/
def closingRawToken : Nat := tokenNumber "closing \x60"

/-- The token of an escape in a string. -/
def escapeToken : Nat := tokenNumber "escape_sequence"

/-- The token of a whole number. -/
def intToken : Nat := tokenNumber "int_literal"

/-- The token of a number with a point or exponent. -/
def floatToken : Nat := tokenNumber "float_literal"

/-- The token of an imaginary number. -/
def imaginaryToken : Nat := tokenNumber "imaginary_literal"

/-- The token of a character in quotes. -/
def runeToken : Nat := tokenNumber "rune_literal"

/-- The tokens that are looked for when the thread is lost: all but those of lines and strings. -/
def lostTokens : TokenSet :=
  TokenSet.ofList <| (List.range Syntax.table.tokens).filter fun n =>
    !([newlineToken, textToken, rawTextToken, closingQuoteToken, closingRawToken].contains n)

/-! ## §B Signs and words -/

/-- Whether a token is written with signs only. -/
def isSign (name : String) : Bool :=
  name.toList.all fun c => 32 < c.toNat && !c.isAlphanum && c != '_'

/-- The signs with their tokens, longer ones first. -/
def signs : List (List Char × Nat) :=
  (((Syntax.table.names.toList.take Syntax.table.tokens).zipIdx.filter fun (name, _) =>
    isSign name).map fun (name, n) => (name.toList, n)).mergeSort
      fun a b => decide (b.1.length ≤ a.1.length)

/-- The words that are names where the grammar has no other place for them, with their tokens. -/
def freeWords : List (String × String) :=
  [("nil", "nil"), ("true", "true"), ("false", "false"), ("iota", "iota"), ("new", "new"),
   ("make", "make"), ("_", "blank_identifier")]

/-- A word that has a token of its own. -/
structure Keyword where
  text : String
  token : Nat
  isReserved : Bool

/-- The words that have a token of their own. -/
def keywords : List Keyword :=
  reservedWords.map (fun w => ⟨w, tokenNumber w, true⟩)
    ++ freeWords.map fun (w, name) => ⟨w, tokenNumber name, false⟩

/-- The tokens that are words. -/
def wordTokens : TokenSet :=
  TokenSet.ofList (nameToken :: keywords.map Keyword.token)

/-! ## §C Patterns -/

/-- A hexadecimal digit. -/
def isHexDigit (c : Char) : Bool :=
  c.isDigit || ('a' ≤ c && c ≤ 'f') || ('A' ≤ c && c ≤ 'F')

/-- An octal digit. -/
def isOctalDigit (c : Char) : Bool := '0' ≤ c && c ≤ '7'

open RollCall.Text.Pattern

/-- Digits of a class, with single underscores between them. -/
def digits (test : Char → Bool) : Pattern :=
  .seq (.one test) (.many (.seq (opt (char '_')) (.one test)))

/-- Digits after a mark and perhaps an underscore. -/
def markedDigits (mark : Pattern) (test : Char → Bool) : Pattern :=
  sequence [char '0', mark, opt (char '_'), digits test]

/-- Decimal digits. -/
def decimals : Pattern := digits Char.isDigit

/-- An exponent behind one of the letters. -/
def exponent (letters : String) : Pattern :=
  sequence [among letters, opt (among "+-"), decimals]

/-- A whole number. -/
def intPattern : Pattern :=
  choice [
    markedDigits (among "xX") isHexDigit,
    markedDigits (opt (among "oO")) isOctalDigit,
    .seq (.one fun c => '1' ≤ c && c ≤ '9') (opt (.seq (opt (char '_')) decimals)),
    char '0',
    markedDigits (among "bB") fun c => c == '0' || c == '1']

/-- A number with a point or an exponent. -/
def floatPattern : Pattern :=
  let hex := digits isHexDigit
  choice [
    sequence [decimals, char '.', opt decimals, opt (exponent "eE")],
    .seq decimals (exponent "eE"),
    sequence [char '.', decimals, opt (exponent "eE")],
    sequence [char '0', among "xX",
      choice [
        sequence [opt (char '_'), hex, char '.', opt hex],
        .seq (opt (char '_')) hex,
        .seq (char '.') hex],
      exponent "pP"]]

/-- An imaginary number. -/
def imaginaryPattern : Pattern :=
  .seq (choice [decimals, intPattern, floatPattern]) (char 'i')

/-- The code of a character behind a backslash. -/
def codePattern (hexTail : Pattern) : List Pattern :=
  let hex : Pattern := .one isHexDigit
  [sequence [char 'x', times 2 hex, hexTail],
   .seq (char 'u') (times 4 hex),
   .seq (char 'U') (times 8 hex)]

/-- A character in quotes. -/
def runePattern : Pattern :=
  let quote : Pattern := .one fun c => c.toNat == 39
  let plain : Pattern := .one fun c => c.toNat != 39 && c != '\\'
  let escaped : Pattern := .seq (char '\\') (choice (codePattern .nothing ++
    [times 3 (.one isOctalDigit),
     .one fun c => c.toNat == 39 || "abfnrtv\\\"".toList.contains c]))
  sequence [quote, .alt plain escaped, quote]

/-- An escape in a string. -/
def escapePattern : Pattern :=
  .seq (char '\\') (choice (codePattern (.many (.one isHexDigit)) ++
    [.seq (times 2 (.one Char.isDigit)) (opt (.one Char.isDigit)), besides "xuU"]))

/-- A comment to the end of the line, or between its marks. -/
def commentPattern : Pattern :=
  let stars := oneOrMore (char '*')
  .alt (.seq (text "//") (.many (besides "\n")))
    (sequence [text "/*", .many (besides "*"), stars,
      .many (sequence [besides "/*", .many (besides "*"), stars]), char '/'])

/-! ## §D Scanning -/

/-- What stands at a spot. -/
inductive Scanned where
  | token (number : Nat) (start stop : Spot)
  /-- No token; `stop` is how far one could be read. -/
  | failed (start stop : Spot)

/-- The spot behind the characters at the front of a text that pass a test. -/
def skipWhile (test : Char → Bool) : List Char → Spot → Spot
  | [], s => s
  | c :: cs, s => if test c then skipWhile test cs s.next else s

/-- The spot behind the characters that pass a test. -/
def spotBehind (test : Char → Bool) (s : Spot) : Spot := skipWhile test s.rest s

/-- A token of the inside of a string, if one is looked for. -/
def scanInside (wanted : TokenSet) (s : Spot) : Option (Nat × Spot) :=
  let has (token : Nat) : Bool := wanted.testBit token
  match s.rest with
  | [] => if has rawTextToken then some (rawTextToken, s) else none
  | c :: _ =>
    let isText (c : Char) : Bool := c != '"' && c != '\n' && c != '\\'
    if has textToken && isText c then some (textToken, spotBehind isText s)
    else if has closingQuoteToken && c == '"' then some (closingQuoteToken, s.next)
    else if has closingRawToken && c.toNat == 96 then some (closingRawToken, s.next)
    else if has rawTextToken then some (rawTextToken, spotBehind (·.toNat != 96) s)
    else if has escapeToken && c == '\\' then
      (escapePattern.longest s.rest).map fun n => (escapeToken, s.skip n)
    else none

/-- The tokens that start with a character and fit, with their lengths. -/
def candidates (wanted : TokenSet) (c : Char) (cs : List Char) : List (Nat × Nat) :=
  let fit (token : Nat) (pattern : Pattern) : List (Nat × Nat) :=
    if wanted.testBit token then ((pattern.longest cs).map fun n => (token, n)).toList else []
  let sign := (signs.find? fun (text, token) =>
    wanted.testBit token && text.isPrefixOf cs).map fun (text, token) => (token, text.length)
  let more :=
    if c.isDigit || c == '.' then
      fit intToken intPattern ++ fit floatToken floatPattern ++ fit imaginaryToken imaginaryPattern
    else if c == '/' then fit commentToken commentPattern
    else if c.toNat == 39 then fit runeToken runePattern
    else if c == '\\' then fit escapeToken escapePattern
    else []
  sign.toList ++ more

/-- The first of the longest tokens. -/
def longestToken (tokens : List (Nat × Nat)) : Option (Nat × Nat) :=
  tokens.foldl (fun best token =>
    match best with
    | none => some token
    | some old => if old.2 < token.2 then some token else best) none

/-- A token behind blanks. -/
def scanToken (wanted : TokenSet) (s : Spot) : Scanned :=
  match s.rest with
  | [] =>
    if wanted.testBit 0 then .token 0 s s
    else if wanted.testBit nullToken then .token nullToken s s
    else .failed s s
  | c :: cs =>
    if c == '\n' then .token newlineToken s s.next
    else if c.toNat == 0 && wanted.testBit nullToken then .token nullToken s s.next
    else if Text.isNameStart c && wanted &&& wordTokens != 0 then
      .token nameToken s (skipWhile Text.isNameContinue cs s.next)
    else
      match longestToken (candidates wanted c (c :: cs)) with
      | some (token, n) => .token token s (s.skip n)
      | none =>
        let reach :=
          if c.toNat == 39 then runePattern.reach (c :: cs)
          else if c == '\\' then escapePattern.reach (c :: cs)
          else 0
        .failed s (s.skip reach)

/-- The next token among those that are looked for. A byte order mark in front of the text is
skipped. -/
def scan (wanted : TokenSet) (s : Spot) : Scanned :=
  match scanInside wanted s with
  | some (token, stop) => .token token s stop
  | none =>
    let s :=
      match s.rest with
      | c :: _ => if s.index == 0 && c.toNat == 0xFEFF then s.next else s
      | [] => s
    let lines := wanted.testBit newlineToken
    scanToken wanted (spotBehind (fun c => isSpace c && !(lines && c == '\n')) s)

/-! ## §E Tokens that hide others -/

/-- The tokens that hide all others: newlines are blanks and the text of strings is not read where
these are not looked for, and nothing stands behind the end. -/
def hidingAll : List String := ["\n", Table.endMark, "text", "raw text"]

/-- Tokens with those that they hide. A longer sign hides a shorter one if its text could also be
the shorter one and the start of what may follow it. -/
def hidingSome : List (String × List String) :=
  [("&&", ["&"]), ("&^", ["&"]), ("&^=", ["&"]), ("<-", ["<"]), ("<<", ["<"]), ("<<=", ["<"]),
   ("++", ["+"]), ("--", ["-"]), ("float_literal", ["int_literal"]),
   ("imaginary_literal", ["int_literal", "float_literal"]), ("closing \"", ["\""]),
   ("closing \x60", ["\x60"])]

/-- The set of all tokens with one of the names. -/
def tokenSet (names : List String) : TokenSet := TokenSet.ofList (names.map tokenNumber)

/-- By token, the tokens that it hides when both are looked for. -/
def hiddenTokens : Array TokenSet :=
  let all := Syntax.table.names.toList.take Syntax.table.tokens
  (all.map fun name =>
    if hidingAll.contains name then tokenSet all else tokenSet ((hidingSome.lookup name).getD [])).toArray

/-! ## §F The next token in a state -/

/-- A word as a keyword or a name; `hasPlace` says whether the state has moves at a token. -/
def wordToken (hasPlace : Nat → Bool) (pad start stop : Spot) : Tree :=
  let leaf (token : Nat) : Tree := Tree.leaf Syntax.table (.symbol token) pad start stop
  let text := String.ofList (start.textTo stop)
  match keywords.find? fun k => k.text == text with
  | none => leaf nameToken
  | some k =>
    if k.isReserved then leaf k.token
    else if hasPlace k.token then
      match leaf k.token with
      | .node facts children => .node { facts with word := true } children
    else leaf nameToken

/-- Skips what is no token, from `start` to beyond `stop`; `reached` is how far a token could be
read. -/
def skipStrays (pad start : Spot) : Nat → Spot → Spot → Tree
  | 0, stop, _ => Tree.leaf Syntax.table .fault pad start stop
  | fuel + 1, stop, reached =>
    let stop := if reached.index == stop.index then reached.next else reached
    match scan lostTokens stop with
    | .token _ _ _ => Tree.leaf Syntax.table .fault pad start stop
    | .failed _ reached => skipStrays pad start fuel stop reached

/-- The next token where tokens of a set can come next, or where the thread is lost if the set is
empty. When none of them is there, any token is read; when there is no token at all, what is skipped
up to the next one. -/
def nextToken (expected : TokenSet) (s : Spot) : Tree :=
  let isLost := expected == 0
  let hasPlace (token : Nat) : Bool := (if isLost then lostTokens else expected).testBit token
  let asTree (token : Nat) (start stop : Spot) : Tree :=
    if token == nameToken then wordToken hasPlace s start stop
    else Tree.leaf Syntax.table (.symbol token) s start stop
  let anyToken : Tree :=
    match scan lostTokens s with
    | .token token start stop => asTree token start stop
    | .failed start reached => skipStrays s start (2 * s.rest.length + 2) start reached
  if isLost then anyToken
  else
    match scan (expected ||| TokenSet.single commentToken) s with
    | .token token start stop => asTree token start stop
    | .failed _ _ => anyToken

/-- Go. Its states are worked out when they are first needed. -/
def language : Thunk Language :=
  Thunk.mk fun _ =>
    { table := Syntax.table
      automaton := Syntax.table.automaton hiddenTokens (TokenSet.single commentToken)
      name := nameToken
      comment := commentToken
      lostTokens := lostTokens
      next := nextToken }

end RollCall.Source
