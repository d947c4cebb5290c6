import RollCall.Grammar.Stack
import RollCall.Source.Plain.Token

/-!
# RollCall.Source.Plain.Type — types, read directly

A reader takes the tokens from the first one of a node on and gives the node and the tokens behind
it, or nothing if the node is not plain. Comments between the tokens of a node are its children;
those behind its last token are left to the node around it.

A newline is blank except where something can end: behind a field, an element or a declaration. The
flag `lines` says whether a type stands at such a place, so that a newline behind it is looked at.
-/

namespace RollCall.Source.Plain

/-- Reads a node. -/
abbrev Reader := List Token → Option (Outline × List Token)

/-- Reads a type for the given role. -/
abbrev TypeReader := Bool → Option Role → Reader

/-! ## §A Children of a node -/

/-- The comments in front of the next token, and the tokens from there on. Newlines are blank unless
`lines` says otherwise. -/
def gap (lines : Bool) : List Token → List Outline × List Token
  | [] => ([], [])
  | t :: ts =>
    match t.shape with
    | .remark =>
      let (remarks, rest) := gap lines ts
      (t.leaf :: remarks, rest)
    | .newline => if lines then ([], t :: ts) else gap lines ts
    | _ => ([], t :: ts)

/-- What the next token is. -/
def peek (lines : Bool) (ts : List Token) : Option Shape := (gap lines ts).2.head?.map Token.shape

/-- The children of a node so far, and the tokens behind them. -/
structure Progress where
  done : List Outline
  rest : List Token

namespace Progress

/-- Takes the next token, which has to have a shape, as a node of a kind and role. -/
def takeAs (p : Progress) (shape : Shape) (kind : Kind) (role : Option Role) : Option Progress :=
  match gap false p.rest with
  | (remarks, t :: ts) =>
    if t.shape = shape then some ⟨p.done ++ remarks ++ [t.node kind role], ts⟩ else none
  | (_, []) => none

/-- Takes the next token, which has to have a shape. -/
def take (p : Progress) (shape : Shape) : Option Progress := p.takeAs shape shape.kind none

/-- Takes a node. -/
def node (p : Progress) (read : Reader) : Option Progress :=
  let (remarks, ts) := gap false p.rest
  (read ts).map fun (o, rest) => ⟨p.done ++ remarks ++ [o], rest⟩

/-- The node with the children so far. -/
def close (p : Progress) (kind : Kind) (role : Option Role) : Outline × List Token :=
  (Outline.ofChildren kind role p.done, p.rest)

/-- Takes items up to a sign that closes them. Each item but perhaps the last ends with a newline or
a semicolon. -/
def items (item : Reader) (closing : Char) : Nat → Progress → Option Progress
  | 0, _ => none
  | fuel + 1, p =>
    if peek false p.rest = some (.sign closing) then p.take (.sign closing)
    else
      (p.node item).bind fun p =>
        match gap true p.rest with
        | (remarks, t :: ts) =>
          if t.shape = .newline ∨ t.shape = .sign ';' then
            items item closing fuel ⟨p.done ++ remarks ++ [t.leaf], ts⟩
          else p.take (.sign closing)
        | (_, []) => none

/-- Takes all items up to a sign that closes them. -/
def allItems (p : Progress) (item : Reader) (closing : Char) : Option Progress :=
  items item closing (p.rest.length + 1) p

end Progress

/-! ## §B Names -/

/-- The name of a type, perhaps of another package. -/
def typeName (lines : Bool) (role : Option Role) : Reader
  | [] => none
  | t :: ts =>
    if t.shape = .name then
      if peek lines ts = some (.sign '.') then do
        let p : Progress := ⟨[t.node .packageName none], ts⟩
        let p ← p.take (.sign '.')
        let p ← p.takeAs .name .typeName none
        pure (p.close .qualifiedType role)
      else some (t.node .typeName role, ts)
    else none

/-! ## §C Parameters -/

/-- An entry of a parameter list, as it is read. -/
inductive Entry where
  /-- A name alone, which is a type unless a name with a type follows. -/
  | bare (name : Token)
  /-- That many names and their type. -/
  | typed (names : Nat) (children : List Outline)
  /-- A type without a name, or a variadic parameter. -/
  | whole (o : Outline)

/-- Reads an entry of a parameter list. -/
def entry (type : TypeReader) : List Token → Option (Entry × List Token)
  | [] => none
  | t :: ts =>
    let variadic (p : Progress) : Option (Entry × List Token) := do
      let p ← p.node (type false (some .type))
      pure (.whole (p.close .variadicParameter none).1, p.rest)
    let alone : Option (Entry × List Token) :=
      (type false (some .type) (t :: ts)).map fun (o, rest) =>
        (.whole (Outline.ofChildren .parameter none [o]), rest)
    match t.shape with
    | .dots => variadic ⟨[t.leaf], ts⟩
    | .name =>
      match peek false ts with
      | some (.sign ',') => some (.bare t, ts)
      | some (.sign ')') => some (.bare t, ts)
      | some (.sign '.') => alone
      | some .dots => ((⟨[t.leaf], ts⟩ : Progress).take .dots).bind variadic
      | _ => ((⟨[t.leaf], ts⟩ : Progress).node (type false (some .type))).map
          fun p => (.typed 1 p.done, p.rest)
    | _ => alone

/-- The most names that share a type. The names in front of the last one can be types by themselves as
well. For each number of them that share the type of the last one the frame behind them has a link,
the smallest number first, and links beyond the most that a frame has are dropped. -/
def maxNames : Nat := Grammar.Readings.maxLinks + 1

/-- A name alone in front of names with a type shares their type, as long as there are not too many
of them; otherwise it is a type. Each entry comes with the comma and comments in front of it. -/
def joined : List (List Outline × Entry) → List (List Outline × Entry)
  | [] => []
  | (between, .bare t) :: entries =>
    let rest := joined entries
    let alone : List (List Outline × Entry) :=
      (between, .whole (Outline.ofChildren .parameter none [t.node .typeName (some .type)])) :: rest
    match rest with
    | (next, .typed names children) :: later =>
      if names < maxNames then (between, .typed (names + 1) (t.leaf :: next ++ children)) :: later
      else alone
    | _ => alone
  | e :: entries => e :: joined entries

/-- The node of an entry. -/
def Entry.outline : Entry → Outline
  | .bare t => t.leaf
  | .typed _ children => Outline.ofChildren .parameter none children
  | .whole o => o

/-- Reads entries with commas between them up to the bracket that closes the list. `between` is what
stands in front of the next entry. -/
def entries (type : TypeReader) :
    Nat → List Outline → List Token → Option (List (List Outline × Entry) × Progress)
  | 0, _, _ => none
  | fuel + 1, between, ts =>
    let (remarks, ts) := gap false ts
    if ts.head?.map Token.shape = some (.sign ')') then
      (Progress.take ⟨between ++ remarks, ts⟩ (.sign ')')).map fun p => ([], p)
    else
      (entry type ts).bind fun (e, rest) =>
        let here := (between ++ remarks, e)
        if peek false rest = some (.sign ',') then
          ((⟨[], rest⟩ : Progress).take (.sign ',')).bind fun p =>
            (entries type fuel p.done p.rest).map fun (es, p) => (here :: es, p)
        else ((⟨[], rest⟩ : Progress).take (.sign ')')).map fun p => ([here], p)

/-- A parameter list. -/
def parameters (type : TypeReader) (role : Option Role) : Reader
  | [] => none
  | t :: ts =>
    if t.shape = .sign '(' then
      (entries type (ts.length + 1) [] ts).map fun (es, p) =>
        let inner := (joined es).flatMap fun (between, e) => between ++ [e.outline]
        (Outline.ofChildren .parameters role (t.leaf :: inner ++ p.done), p.rest)
    else none

/-- Whether a type other than one in brackets can start with a token. -/
def Shape.startsType : Shape → Bool
  | .name => true
  | .keyword k => k != .package && k != .type
  | .sign c => c == '*' || c == '['
  | _ => false

/-- Takes the result of a function, if there is one. -/
def Progress.result (p : Progress) (type : TypeReader) (lines : Bool) : Option Progress :=
  match peek lines p.rest with
  | none => some p
  | some shape =>
    if shape = .sign '(' then p.node (parameters type (some .result))
    else if shape.startsType then p.node (type lines (some .result))
    else some p

/-! ## §D Fields and elements -/

/-- Takes further names of a field, each behind a comma. -/
def Progress.moreNames : Nat → Progress → Option Progress
  | 0, _ => none
  | fuel + 1, p =>
    if peek false p.rest = some (.sign ',') then
      (p.take (.sign ',')).bind fun p =>
        (p.takeAs .name .fieldName none).bind (moreNames fuel)
    else some p

/-- A field of a struct: names and a type, or an embedded type. -/
def field (type : TypeReader) : Reader
  | [] => none
  | t :: ts =>
    match t.shape with
    | .sign '*' => ((⟨[t.leaf], ts⟩ : Progress).node (typeName true (some .type))).map
        (Progress.close · .field none)
    | .name =>
      let named (p : Progress) : Option (Outline × List Token) :=
        (p.node (type true (some .type))).map (Progress.close · .field none)
      let first : Progress := ⟨[t.node .fieldName none], ts⟩
      match peek true ts with
      | some (.sign ',') => (first.moreNames (ts.length + 1)).bind named
      | some shape =>
        if shape.startsType || shape = .sign '(' then named first
        else ((⟨[], t :: ts⟩ : Progress).node (typeName true (some .type))).map
          (Progress.close · .field none)
      | none => none
    | _ => none

/-- The fields of a struct. -/
def fields (type : TypeReader) : Reader
  | [] => none
  | t :: ts =>
    if t.shape = .sign '{' then
      ((⟨[t.leaf], ts⟩ : Progress).allItems (field type) '}').map (Progress.close · .fields none)
    else none

/-- An element of an interface: a method or an embedded name. -/
def element (type : TypeReader) : Reader
  | [] => none
  | t :: ts =>
    if t.shape = .name ∧ peek true ts = some (.sign '(') then do
      let p : Progress := ⟨[t.node .fieldName none], ts⟩
      let p ← p.node (parameters type (some .parameters))
      let p ← p.result type true
      pure (p.close .methodElement none)
    else
      ((⟨[], t :: ts⟩ : Progress).node (typeName true none)).map
        (Progress.close · .typeElement none)

/-! ## §E Types -/

/-- A type. The first argument bounds the nesting. -/
def type : Nat → TypeReader
  | 0, _, _, _ => none
  | _ + 1, _, _, [] => none
  | fuel + 1, lines, role, t :: ts =>
    let p : Progress := ⟨[t.leaf], ts⟩
    match t.shape with
    | .name => typeName lines role (t :: ts)
    | .sign '*' => do
      let p ← p.node (type fuel lines none)
      pure (p.close .pointerType role)
    | .sign '(' => do
      let p ← p.node (type fuel false none)
      let p ← p.take (.sign ')')
      pure (p.close .bracketedType role)
    | .sign '[' =>
      if peek false ts = some .number then do
        let p ← p.takeAs .number Shape.number.kind (some .length)
        let p ← p.take (.sign ']')
        let p ← p.node (type fuel lines (some .element))
        pure (p.close .arrayType role)
      else do
        let p ← p.take (.sign ']')
        let p ← p.node (type fuel lines (some .element))
        pure (p.close .sliceType role)
    | .keyword .map => do
      let p ← p.take (.sign '[')
      let p ← p.node (type fuel false (some .key))
      let p ← p.take (.sign ']')
      let p ← p.node (type fuel lines (some .value))
      pure (p.close .mapType role)
    | .keyword .chan => do
      let p ← p.node (type fuel lines (some .value))
      pure (p.close .channelType role)
    | .keyword .struct => do
      let p ← p.node (fields (type fuel))
      pure (p.close .structType role)
    | .keyword .interface => do
      let p ← p.take (.sign '{')
      let p ← p.allItems (element (type fuel)) '}'
      pure (p.close .interfaceType role)
    | .keyword .func => do
      let p ← p.node (parameters (type fuel) (some .parameters))
      let p ← p.result (type fuel) lines
      pure (p.close .functionType role)
    | _ => none

end RollCall.Source.Plain
