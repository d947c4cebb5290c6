import RollCall.Comment.Attachment
import RollCall.Declaration.Basic
import RollCall.Source.TypeOf

/-!
# RollCall.Source.Interface — the elements of an interface type

An interface body is a sequence of methods and embedded elements. Comments between elements are
comments of the body; comments between the parts of an element count as standing right behind it.
-/

namespace RollCall.Source

open RollCall.Comment

/-- A method as it is declared. -/
structure Signature where
  name : String
  /-- The source text of the name, the parameters and the result, blanks collapsed. -/
  text : String
  params : List GoType
  results : List GoType
deriving Repr

/-- What an element of a body declares. -/
inductive ElementKind where
  | method (signature : Signature)
  | embed (embed : Embed)
deriving Repr

/-- An element with its lines and the comments that belong to it. -/
structure Element where
  kind : ElementKind
  span : Span
  comments : List Cluster

/-! ## §A One element -/

/-- The types of a result: those of a list of parameters, or a single one. -/
def resultTypes (result : Outline) : List GoType :=
  if result.kind == .parameters then paramTypes result else [typeOf result]

/-- The method that a node declares. -/
def signature? (o : Outline) : Option Signature :=
  (o.children.find? fun c => c.kind == .fieldName).map fun name =>
    let params := o.child? .parameters
    let result := o.child? .result
    let paramText := (params.map Outline.text).getD []
    let resultText := (result.map fun r => ' ' :: r.text).getD []
    { name := name.string
      text := collapsed (name.text ++ paramText ++ resultText)
      params := (params.map paramTypes).getD []
      results := (result.map resultTypes).getD [] }

/-- What a term embeds: a name, a name of another package, or whatever is known by its text. -/
def termEmbed (o : Outline) : Embed :=
  match o.kind with
  | .typeName => .sibling o.string
  | .qualifiedType =>
    match qualifiedParts? o.text with
    | some (package, name) => .foreign package name
    | none => .term o.string
  | _ => .term (collapsed o.text)

/-- What a node embeds: its only term, or all of it. -/
def embedOf (o : Outline) : Embed :=
  match o.solid with
  | [term] => termEmbed term
  | _ => termEmbed o

/-- What a node of a body declares, if it is an element. -/
def elementKind? (o : Outline) : Option ElementKind :=
  match o.kind with
  | .methodElement => (signature? o).map .method
  | .typeElement => some (.embed (embedOf o))
  | _ => none

/-- The lines of an element. Comments at its end do not count. -/
def spanOf (o : Outline) : Span :=
  ⟨o.line, (o.solid.getLast?.getD o).lastLine⟩

/-- The comment that a node is. -/
def remarkOf (o : Outline) : Remark := ⟨o.string, o.line, o.lastLine⟩

/-! ## §B A body -/

/-- A comment of the body or an element. -/
inductive BodyItem where
  | remark (r : Remark)
  | element (kind : ElementKind) (span : Span)

/-- The items of a node of a body: a comment, or an element and the comments inside it. -/
def bodyItems (o : Outline) : List BodyItem :=
  if o.kind == .comment then [.remark (remarkOf o)]
  else
    match elementKind? o with
    | none => []
    | some kind =>
      .element kind (spanOf o) ::
        (o.children.filter fun c => c.kind == .comment).map fun c => .remark (remarkOf c)

/-- The item as an entry for attaching comments. -/
def BodyItem.entry : BodyItem → Entry
  | .remark r => .remark r
  | .element _ span => .element span

/-- The elements among items, numbered. -/
def elementsFrom : Nat → List BodyItem → List (Nat × ElementKind × Span)
  | _, [] => []
  | n, .remark _ :: items => elementsFrom n items
  | n, .element kind span :: items => (n, kind, span) :: elementsFrom (n + 1) items

/-- The elements of a body with the comments that belong to them. -/
def attachComments (items : List BodyItem) : List Element :=
  let groups := owned (items.map BodyItem.entry)
  (elementsFrom 0 items).map fun (n, kind, span) => ⟨kind, span, attached groups n⟩

/-- The elements of an interface type. -/
def interfaceElements (o : Outline) : List Element := attachComments (o.children.flatMap bodyItems)

/-- The shape of an interface with the given elements. -/
def shapeOf (elements : List Element) : Shape where
  methods := elements.filterMap fun e =>
    match e.kind with
    | .method s => some s.name
    | .embed _ => none
  embedded := elements.filterMap fun e =>
    match e.kind with
    | .method _ => none
    | .embed x => some x

end RollCall.Source
