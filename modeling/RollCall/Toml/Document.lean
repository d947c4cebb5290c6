import RollCall.Toml.Scalar

/-!
# RollCall.Toml.Document — reading a TOML document

A document is a sequence of lines that assign a value to a key, start a table or start an element of
an array of tables. `Node` is the tree under construction: it remembers how a table came to be,
since a table may be started once only, and dotted keys may add only to tables that dotted keys
made.

`read?` gives the table of a document, or nothing where the text is no document.
-/

namespace RollCall.Toml

/-! ## §A The tree under construction -/

/-- How a table came to be. -/
inductive Origin where
  /-- It was started by a header of its own, or is the document. -/
  | header
  /-- A longer header passed through it. -/
  | passed
  /-- A dotted key passed through it. -/
  | dotted
deriving DecidableEq, Repr

/-- A value, a table, or an array of tables, the last one first. -/
inductive Node where
  | value (v : Setting)
  | table (origin : Origin) (entries : List (String × Node))
  | tables (elements : List (List (String × Node)))
deriving Inhabited

/-- The entries of a table. -/
abbrev Entries := List (String × Node)

/-- Assigns a value under a dotted key. A key ends in the table where the line stands or in one that
dotted keys made; the flag tells whether it may end here. On the way a key may pass through tables
that have no header of their own. -/
def assign : Bool → List String → Setting → Entries → Option Entries
  | _, [], _, _ => none
  | mayEnd, [key], v, entries =>
    if !mayEnd || Dictionary.has key entries then none
    else some (Dictionary.set key (.value v) entries)
  | _, key :: path, v, entries =>
    match Dictionary.get? key entries with
    | none => (assign true path v []).map fun sub => Dictionary.set key (.table .dotted sub) entries
    | some (.table .dotted sub) =>
      (assign true path v sub).map fun sub => Dictionary.set key (.table .dotted sub) entries
    | some (.table .passed sub) =>
      (assign false path v sub).map fun sub => Dictionary.set key (.table .passed sub) entries
    | some (.tables (last :: before)) =>
      (assign false path v last).map fun last =>
        Dictionary.set key (.tables (last :: before)) entries
    | some _ => none

/-- Changes the entries of the table that a header names, the table being there already. In an array
of tables the last element is meant. -/
def alter (f : Entries → Option Entries) : List String → Entries → Option Entries
  | [], entries => f entries
  | key :: path, entries =>
    match Dictionary.get? key entries with
    | some (.table origin sub) =>
      (alter f path sub).map fun sub => Dictionary.set key (.table origin sub) entries
    | some (.tables (last :: before)) =>
      (alter f path last).map fun last => Dictionary.set key (.tables (last :: before)) entries
    | _ => none

/-- Starts the table that a header names. -/
def startTable : List String → Entries → Option Entries
  | [], _ => none
  | [key], entries =>
    match Dictionary.get? key entries with
    | none => some (Dictionary.set key (.table .header []) entries)
    | some (.table .passed sub) => some (Dictionary.set key (.table .header sub) entries)
    | some _ => none
  | key :: path, entries =>
    match Dictionary.get? key entries with
    | none => (startTable path []).map fun sub => Dictionary.set key (.table .passed sub) entries
    | some (.table origin sub) =>
      (startTable path sub).map fun sub => Dictionary.set key (.table origin sub) entries
    | some (.tables (last :: before)) =>
      (startTable path last).map fun last => Dictionary.set key (.tables (last :: before)) entries
    | some _ => none

/-- Starts another element of the array of tables that a header names. -/
def startElement : List String → Entries → Option Entries
  | [], _ => none
  | [key], entries =>
    match Dictionary.get? key entries with
    | none => some (Dictionary.set key (.tables [[]]) entries)
    | some (.tables elements) => some (Dictionary.set key (.tables ([] :: elements)) entries)
    | some _ => none
  | key :: path, entries =>
    match Dictionary.get? key entries with
    | none => (startElement path []).map fun sub => Dictionary.set key (.table .passed sub) entries
    | some (.table origin sub) =>
      (startElement path sub).map fun sub => Dictionary.set key (.table origin sub) entries
    | some (.tables (last :: before)) =>
      (startElement path last).map fun last => Dictionary.set key (.tables (last :: before)) entries
    | some _ => none

mutual

/-- The finished value of a node. -/
def Node.finish : Node → Setting
  | .value v => v
  | .table _ entries => .table (finishEntries entries)
  | .tables elements => .list (finishElements elements).reverse

/-- The finished entries of a table. -/
def finishEntries : List (String × Node) → List (String × Setting)
  | [] => []
  | (key, node) :: rest => (key, node.finish) :: finishEntries rest

/-- The finished elements of an array of tables. -/
def finishElements : List (List (String × Node)) → List Setting
  | [] => []
  | entries :: rest => .table (finishEntries entries) :: finishElements rest

end

/-! ## §B Keys and values -/

/-- A character of a key without quotes. -/
def isBareChar (c : Char) : Bool := c.isAlphanum || c == '_' || c == '-'

/-- One part of a key. -/
def readPart (cs : List Char) : Option (String × List Char) :=
  match cs with
  | c :: _ =>
    if isBareChar c then
      let word := cs.takeWhile isBareChar
      some (String.ofList word, cs.drop word.length)
    else (readShortString cs).map fun (s, rest) => (String.ofList s, rest)
  | [] => none

/-- Parts with points between them, blanks allowed around each. -/
def readParts : Nat → List Char → Option (List String × List Char)
  | 0, _ => none
  | fuel + 1, cs =>
    match readPart (cs.dropWhile isBlank) with
    | none => none
    | some (part, rest) =>
      match rest.dropWhile isBlank with
      | '.' :: rest => (readParts fuel rest).map fun (parts, rest) => (part :: parts, rest)
      | rest => some ([part], rest)

/-- The most parts of a key, and the most arrays and tables on one line inside one another. -/
def maxDepth : Nat := 79

/-- A key. -/
def readKey (cs : List Char) : Option (List String × List Char) :=
  match readParts (cs.length + 1) cs with
  | some (parts, rest) => if parts.length ≤ maxDepth then some (parts, rest) else none
  | none => none

/-- Skips a comment up to the end of its line. -/
def skipComment (cs : List Char) : List Char :=
  match cs with
  | '#' :: rest => rest.dropWhile isPlain
  | cs => cs

/-- Skips blanks, newlines and comments. -/
def skipGaps : Nat → List Char → List Char
  | 0, cs => cs
  | fuel + 1, cs =>
    let cs := skipComment (cs.dropWhile isBlank)
    match newline? cs with
    | some rest => skipGaps fuel rest
    | none => cs

mutual

/-- A value with at most `room` arrays and tables inside one another. -/
def readValue : Nat → Nat → List Char → Option (Setting × List Char)
  | 0, _, _ => none
  | _ + 1, _, [] => none
  | fuel + 1, room, c :: cs =>
    if c == '"' || c == apostrophe then
      (readString (c :: cs)).map fun (s, rest) => (.text (String.ofList s), rest)
    else if c == '[' then
      if room == 0 then none
      else (readItems fuel (room - 1) cs).map fun (items, rest) => (.list items, rest)
    else if c == '{' then
      if room == 0 then none
      else
        match cs.dropWhile isBlank with
        | '}' :: rest => some (.table [], rest)
        | cs =>
          (readPairs fuel (room - 1) [] cs).map fun (entries, rest) =>
            (.table (finishEntries entries), rest)
    else readWord (c :: cs)

/-- The items of an array and the bracket that closes it. A comma may follow the last item. -/
def readItems : Nat → Nat → List Char → Option (List Setting × List Char)
  | 0, _, _ => none
  | fuel + 1, room, cs =>
    match skipGaps (cs.length + 1) cs with
    | ']' :: rest => some ([], rest)
    | cs =>
      match readValue fuel room cs with
      | none => none
      | some (v, rest) =>
        match skipGaps (rest.length + 1) rest with
        | ',' :: rest => (readItems fuel room rest).map fun (vs, rest) => (v :: vs, rest)
        | ']' :: rest => some ([v], rest)
        | _ => none

/-- The entries of a table on one line, added to those read before, and the brace that closes it. -/
def readPairs : Nat → Nat → Entries → List Char → Option (Entries × List Char)
  | 0, _, _, _ => none
  | fuel + 1, room, entries, cs =>
    match readKey cs with
    | some (key, '=' :: rest) =>
      match readValue fuel room (rest.dropWhile isBlank) with
      | none => none
      | some (v, rest) =>
        match assign true key v entries with
        | none => none
        | some entries =>
          match rest.dropWhile isBlank with
          | ',' :: rest => readPairs fuel room entries rest
          | '}' :: rest => some (entries, rest)
          | _ => none
    | _ => none

end

/-! ## §C Documents -/

/-- What follows the end of a line, if nothing but a comment stands in front of it. -/
def lineEnd? (cs : List Char) : Option (List Char) :=
  match skipComment (cs.dropWhile isBlank) with
  | [] => some []
  | cs => newline? cs

/-- Reads lines into a document, assignments going to the table named last. -/
def readLines : Nat → List String → Entries → List Char → Option Entries
  | 0, _, _, _ => none
  | fuel + 1, table, entries, cs =>
    match cs.dropWhile isBlank with
    | [] => some entries
    | '[' :: '[' :: cs =>
      match readKey cs with
      | some (key, ']' :: ']' :: rest) => do
        let entries ← startElement key entries
        let rest ← lineEnd? rest
        readLines fuel key entries rest
      | _ => none
    | '[' :: cs =>
      match readKey cs with
      | some (key, ']' :: rest) => do
        let entries ← startTable key entries
        let rest ← lineEnd? rest
        readLines fuel key entries rest
      | _ => none
    | c :: cs =>
      if c == '#' || (newline? (c :: cs)).isSome then do
        let rest ← lineEnd? (c :: cs)
        readLines fuel table entries rest
      else
        match readKey (c :: cs) with
        | some (key, '=' :: rest) => do
          let (v, rest) ← readValue (2 * rest.length + 2) maxDepth (rest.dropWhile isBlank)
          let entries ← alter (assign true key v) table entries
          let rest ← lineEnd? rest
          readLines fuel table entries rest
        | _ => none

/-- The table of a TOML document. A byte order mark in front is skipped. -/
def read? (document : String) : Option Setting :=
  let cs :=
    match document.toList with
    | c :: rest => if c.toNat == 0xFEFF then rest else c :: rest
    | [] => []
  (readLines (cs.length + 1) [] [] cs).map fun entries => .table (finishEntries entries)

end RollCall.Toml
