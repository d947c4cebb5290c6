import RollCall.Text.Spot

/-!
# RollCall.Source.Outline — the tree of a source file

The outline of a file is the tree of what has been read, without the nodes that only serve the
grammar. Comments stand in it as children of the innermost node around them, and so do faults. A
token that the source does not have but that was needed to read on is marked as missing.
-/

namespace RollCall.Source

open RollCall.Text (Spot)

/-- What a node of an outline is. -/
inductive Kind where
  | packageClause
  | packageName
  | typeSpec
  | typeAlias
  | typeName
  | fieldName
  /-- A name of anything else. -/
  | name
  | qualifiedType
  | pointerType
  | bracketedType
  | sliceType
  | arrayType
  /-- An array type whose length is that of the literal behind it. -/
  | countedArrayType
  | channelType
  | mapType
  | structType
  | fields
  | field
  | interfaceType
  | functionType
  | methodElement
  | typeElement
  | parameters
  | parameter
  | variadicParameter
  | comment
  /-- Text that does not fit. -/
  | fault
  | other (name : String)
deriving DecidableEq, Repr

/-- What a node is for in the one that holds it. -/
inductive Role where
  | type
  | element
  | length
  | key
  | value
  | parameters
  | result
deriving DecidableEq, Repr

/-- A node of an outline. -/
inductive Outline where
  | node (kind : Kind) (role : Option Role) (missing : Bool) (start stop : Spot)
      (children : List Outline)

namespace Kind

/-- The kinds by the names that the grammar gives to parts and tokens. -/
def names : List (String × Kind) :=
  [("package clause", .packageClause), ("package_identifier", .packageName),
   ("type spec", .typeSpec), ("type alias", .typeAlias), ("type_identifier", .typeName),
   ("field_identifier", .fieldName), ("identifier", .name), ("qualified type", .qualifiedType),
   ("pointer type", .pointerType), ("type in brackets", .bracketedType),
   ("slice type", .sliceType), ("array type", .arrayType),
   ("counted array type", .countedArrayType), ("channel type", .channelType),
   ("map type", .mapType), ("struct type", .structType), ("fields", .fields), ("field", .field),
   ("interface type", .interfaceType), ("function type", .functionType),
   ("method element", .methodElement), ("type element", .typeElement),
   ("parameters", .parameters), ("parameter", .parameter),
   ("variadic parameter", .variadicParameter), ("comment", .comment)]

/-- The kind of that name. -/
def ofName (name : String) : Kind := (names.lookup name).getD (.other name)

/-- The name of a kind. -/
def nameOf (k : Kind) : String :=
  match k with
  | .other text => text
  | k => ((names.find? fun (_, kind) => kind == k).map Prod.fst).getD ""

end Kind

/-- The role of that name, if it is of use. -/
def Role.ofName? : String → Option Role
  | "type" => some .type
  | "element" => some .element
  | "length" => some .length
  | "key" => some .key
  | "value" => some .value
  | "parameters" => some .parameters
  | "result" => some .result
  | _ => none

namespace Outline

/-! ## §A Parts of a node -/

/-- What the node is. -/
def kind : Outline → Kind
  | .node kind _ _ _ _ _ => kind

/-- What the node is for. -/
def role : Outline → Option Role
  | .node _ role _ _ _ _ => role

/-- Whether the source does not have the token. -/
def isMissing : Outline → Bool
  | .node _ _ missing _ _ _ => missing

/-- Where the node starts. -/
def start : Outline → Spot
  | .node _ _ _ start _ _ => start

/-- Where the node ends. -/
def stop : Outline → Spot
  | .node _ _ _ _ stop _ => stop

/-- The children. -/
def children : Outline → List Outline
  | .node _ _ _ _ _ children => children

/-- The source text of a node. -/
def text (o : Outline) : List Char := o.start.textTo o.stop

/-- The source text of a node as a string. -/
def string (o : Outline) : String := String.ofList o.text

/-- The line on which a node starts. -/
def line (o : Outline) : Nat := o.start.line

/-- The line on which a node ends. -/
def lastLine (o : Outline) : Nat := o.stop.line

/-- The child with a role. -/
def child? (o : Outline) (role : Role) : Option Outline :=
  o.children.find? fun c => c.role == some role

/-- The children that are no comments. -/
def solid (o : Outline) : List Outline := o.children.filter fun c => c.kind != .comment

/-- A node with the given children, from the start of the first to the end of the last. -/
def ofChildren (kind : Kind) (role : Option Role) (children : List Outline) : Outline :=
  match children, children.getLast? with
  | first :: _, some last => .node kind role false first.start last.stop children
  | _, _ => .node kind role false (Spot.start []) (Spot.start []) children

/-! ## §B All nodes -/

mutual

/-- The nodes of some kinds, in the order in which they start, outer ones first. -/
def select (test : Kind → Bool) : Outline → List Outline → List Outline
  | .node kind role missing start stop children, rest =>
    let inner := selectAll test children rest
    if test kind then .node kind role missing start stop children :: inner else inner

/-- The nodes of some kinds among several nodes. -/
def selectAll (test : Kind → Bool) : List Outline → List Outline → List Outline
  | [], rest => rest
  | o :: os, rest => select test o (selectAll test os rest)

end

end Outline

end RollCall.Source
