import RollCall.Package

/-!
# RollCall.SignatureSearch — the signatures of an interface with everything it embeds

The names of the method set say nothing about parameters and results, so the signatures are looked
up by a search of their own. It works through a list of names, the next one first: a name that was
entered before is passed over; of any other one the walked declaration gives its methods, and the
embedded names of its shape go in front of the list. A method that has a signature keeps it, so what
is declared nearer to the start comes first.

`entered` is the order in which the search goes into names.
-/

namespace RollCall

/-- How far a search has come. -/
structure SignatureSearch where
  /-- The names that are still to be looked at, the next one first. -/
  pending : List String
  /-- The names the search went into, in order. -/
  entered : List String
  /-- The methods found, by name. -/
  methods : Dictionary WalkedMethod
  /-- The warnings of walking, in order. -/
  warnings : List Warning

namespace SignatureSearch

/-- A search that has only its first name. -/
def start (name : String) : SignatureSearch := ⟨[name], [], [], []⟩

/-- Takes up methods that have no signature yet. -/
def adopt (methods : Dictionary WalkedMethod) (found : Dictionary WalkedMethod) :
    Dictionary WalkedMethod :=
  found.foldl
    (fun methods (name, method) =>
      if Dictionary.has name methods then methods else Dictionary.set name method methods)
    methods

/-- The names of the same package among embedded elements, in order. -/
def siblings (embedded : List Embed) : List String :=
  embedded.filterMap fun e =>
    match e with
    | .sibling name => some name
    | .foreign _ _ => none
    | .term _ => none

/-- The names that the index knows to be embedded under a name. -/
def below (index : Index) (name : String) : List String :=
  match index.shape? name with
  | some shape => siblings shape.embedded
  | none => []

/-- Looks at the next name. -/
def step (p : Package) (index : Index) (s : SignatureSearch) : SignatureSearch :=
  match s.pending with
  | [] => s
  | name :: pending =>
    if s.entered.contains name then { s with pending := pending }
    else
      let (walked, warnings) := p.walk name
      { pending := below index name ++ pending
        entered := s.entered ++ [name]
        methods :=
          match walked with
          | some found => adopt s.methods found.methods
          | none => s.methods
        warnings := s.warnings ++ warnings }

/-- Looks at that many names, or fewer when none is left. -/
def run (p : Package) (index : Index) : Nat → SignatureSearch → SignatureSearch
  | 0, s => s
  | fuel + 1, s => run p index fuel (step p index s)

/-- The number of names that a search can meet: the first one, and those embedded under each name of
the index, which is entered once. -/
def bound (index : Index) : Nat :=
  index.foldr (fun entry total => (below index entry.1).length + total) 1

/-- The search from an interface, finished. -/
def ofInterface (p : Package) (index : Index) (name : String) : SignatureSearch :=
  run p index (bound index) (start name)

end SignatureSearch

end RollCall
