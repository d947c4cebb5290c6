import RollCall.Comment.Text

/-!
# RollCall.Comment.Attachment — which comments belong to which element

The comments and elements of an interface body come as one sequence in source order. Comments on
adjacent lines form a group; a comment that starts on the line where the element before it ends is a
group of its own.

A group belongs to the element before it when it starts on the line where that element ends, or on
the line after it with a blank line or the end of the body behind. Otherwise it belongs to the
element after it. Behind the last element it may belong to none.
-/

namespace RollCall.Comment

/-- A comment with its first and last line. -/
structure Remark where
  text : String
  line : Nat
  lastLine : Nat
deriving DecidableEq, Repr

/-- The first and the last line of an element. -/
structure Span where
  line : Nat
  lastLine : Nat
deriving DecidableEq, Repr

/-- A comment or an element of a body. -/
inductive Entry where
  | remark (r : Remark)
  | element (span : Span)
deriving DecidableEq, Repr

/-- The text and the lines of a group of comments. -/
structure Cluster where
  text : String
  line : Nat
  lastLine : Nat
deriving DecidableEq, Repr

/-- A group of comments or an element of a body. -/
inductive Slot where
  | cluster (c : Cluster)
  | element (span : Span)
deriving DecidableEq, Repr

/-! ## §A Groups -/

/-- The group of the given comments, in order; no group for no comments. -/
def clusterOf (remarks : List Remark) : List Slot :=
  match remarks, remarks.getLast? with
  | first :: _, some last =>
    [.cluster ⟨text (remarks.map Remark.text), first.line, last.lastLine⟩]
  | _, _ => []

/-- Whether a comment starts more than one line below the end of the comments gathered so far. -/
def apart (pending : List Remark) (r : Remark) : Bool :=
  match pending.getLast? with
  | some last => last.lastLine + 1 < r.line
  | none => false

/-- Gathers comments into groups, from the comments gathered so far and the line where the last
element ended. -/
def gather : List Remark → Option Nat → List Entry → List Slot
  | pending, _, [] => clusterOf pending
  | pending, ended, .remark r :: entries =>
    if ended = some r.line then clusterOf pending ++ clusterOf [r] ++ gather [] ended entries
    else if apart pending r then clusterOf pending ++ gather [r] ended entries
    else gather (pending ++ [r]) ended entries
  | pending, _, .element span :: entries =>
    clusterOf pending ++ .element span :: gather [] (some span.lastLine) entries

/-- The groups and elements of a body. -/
def slots (entries : List Entry) : List Slot := gather [] none entries

/-! ## §B Owners -/

/-- The neighbour that a group belongs to. -/
inductive Side where
  | before
  | after
deriving DecidableEq, Repr

/-- The neighbour that a group belongs to, given the nearest elements before and after it. -/
def owner (before after : Option Span) (c : Cluster) : Option Side :=
  match before, after with
  | some p, some n =>
    if c.line = p.lastLine then some .before
    else if c.line = p.lastLine + 1 ∧ c.lastLine + 1 < n.line then some .before
    else some .after
  | some p, none =>
    if c.line = p.lastLine ∨ c.line = p.lastLine + 1 then some .before else none
  | none, some _ => some .after
  | none, none => none

/-- The first element of a sequence. -/
def nextElement : List Slot → Option Span
  | [] => none
  | .element span :: _ => some span
  | .cluster _ :: rest => nextElement rest

/-- Every group that has an owner, with the number of the element it belongs to. `count` elements
stand in front, the last of them being `before`. -/
def assign : Nat → Option Span → List Slot → List (Nat × Cluster)
  | _, _, [] => []
  | count, _, .element span :: rest => assign (count + 1) (some span) rest
  | count, before, .cluster c :: rest =>
    match owner before (nextElement rest) c with
    | some .before => (count - 1, c) :: assign count before rest
    | some .after => (count, c) :: assign count before rest
    | none => assign count before rest

/-- The groups of a body that have an owner, with the number of the element each belongs to. -/
def owned (entries : List Entry) : List (Nat × Cluster) := assign 0 none (slots entries)

/-- The groups of the element with the given number, in source order. -/
def attached (groups : List (Nat × Cluster)) (number : Nat) : List Cluster :=
  (groups.filter fun (n, _) => n == number).map Prod.snd

end RollCall.Comment
