import RollCall.Source.Plain.Type

/-!
# RollCall.Source.Plain.File — whole files, read directly

A plain file is a sequence of package clauses and type declarations, each with a newline, a
semicolon or the end of the file behind it.
-/

namespace RollCall.Source.Plain

/-- A specification of a type declaration: a name and its type, perhaps with an equals sign. -/
def typeSpec (depth : Nat) : Reader
  | [] => none
  | t :: ts =>
    if t.shape = .name then
      let p : Progress := ⟨[t.node .typeName none], ts⟩
      if peek false ts = some (.sign '=') then do
        let p ← p.take (.sign '=')
        let p ← p.node (type depth true (some .type))
        pure (p.close .typeAlias none)
      else do
        let p ← p.node (type depth true (some .type))
        pure (p.close .typeSpec none)
    else none

/-- A type declaration: one specification, or several in brackets. -/
def typeDeclaration (depth : Nat) : Reader
  | [] => none
  | t :: ts =>
    let p : Progress := ⟨[t.leaf], ts⟩
    let specs :=
      if peek false ts = some (.sign '(') then
        (p.take (.sign '(')).bind fun p => p.allItems (typeSpec depth) ')'
      else p.node (typeSpec depth)
    specs.map (Progress.close · (.other "types") none)

/-- A package clause. -/
def packageClause : Reader
  | [] => none
  | t :: ts =>
    ((⟨[t.leaf], ts⟩ : Progress).takeAs .name .packageName none).map
      (Progress.close · .packageClause none)

/-- Reads what stands behind a declaration: a newline or a semicolon with further declarations, which
`next` reads, or the end of the file. A type declaration at the end of the file has an end mark
behind it, a package clause does not. -/
def behind (next : Progress → Option (List Outline)) (marksEnd : Bool) (p : Progress) :
    Option (List Outline) :=
  match gap true p.rest with
  | (remarks, t :: ts) =>
    let done := p.done ++ remarks
    if t.shape = .newline ∨ t.shape = .sign ';' then next ⟨done ++ [t.leaf], ts⟩
    else if t.shape = .finish then some (if marksEnd then done ++ [t.leaf] else done)
    else none
  | (_, []) => none

/-- Reads declarations up to the end of the file. -/
def declarations (depth : Nat) : Nat → Progress → Option (List Outline)
  | 0, _ => none
  | fuel + 1, p =>
    match peek false p.rest with
    | some .finish => some (p.done ++ (gap false p.rest).1)
    | some (.keyword .package) =>
      (p.node packageClause).bind (behind (declarations depth fuel) false)
    | some (.keyword .type) =>
      (p.node (typeDeclaration depth)).bind (behind (declarations depth fuel) true)
    | _ => none

/-- The outline of a plain file, which goes from its first declaration or comment to the end of the
text. -/
def file? (source : List Char) : Option Outline := do
  let ts ← tokens? source
  let children ← declarations ts.length (ts.length + 1) ⟨[], ts⟩
  match children, ts.getLast? with
  | first :: _, some last =>
    some (.node (.other "source file") none false first.start last.stop children)
  | _, _ => none

end RollCall.Source.Plain
