import RollCall.Proofs.Source.Spelled
import RollCall.Source.Plain.Type

/-!
# RollCall.Proofs.Source.Printed — interfaces as they are printed

A printed interface has one method on each line. The parameters of a method are all without names or
all with names, and names that share a type stand in front of it together; the last parameter may be
variadic. A single result without a name may stand without brackets.

`Listing.types` is what such a list means: the type of each group once for each of its names. What
is read differs from it where a group has more names than can share a type: the names in front are
read as types of their own. `Listing.read` says so, and the two agree exactly where such a name
happens to name the type of its group.
-/

namespace RollCall.Printed

open RollCall.Source.Plain (isName maxNames)

/-! ## §A Methods -/

/-- Names that share a type: those in front, the last one, and the type. -/
structure Group where
  others : List String
  last : String
  type : GoType

/-- A list of parameters or results. -/
inductive Listing where
  /-- Types without names, perhaps with a variadic one behind them. -/
  | unnamed (types : List GoType) (variadic : Option GoType)
  /-- Groups of names, perhaps with a variadic name behind them. -/
  | named (groups : List Group) (variadic : Option (String × GoType))

/-- The results of a method. -/
inductive Results where
  | none
  /-- A single result without a name and without brackets. -/
  | bare (type : GoType)
  | listed (list : Listing)

/-- A method of a printed interface. -/
structure Method where
  name : String
  params : Listing
  results : Results

/-! ## §B What they mean and what is read -/

/-- The type once for each name. -/
def Group.types (g : Group) : List GoType := List.replicate (g.others.length + 1) g.type

/-- The names in front that are too many to share the type. -/
def Group.surplus (g : Group) : List String := g.others.take (g.others.length + 1 - maxNames)

/-- What a name alone is as a type. -/
def nameType (name : String) : GoType := if name == "any" then .interface else .named none name

/-- The types that a group is read as. -/
def Group.read (g : Group) : List GoType :=
  g.surplus.map nameType ++ List.replicate (min (g.others.length + 1) maxNames) g.type

/-- The groups of a list. -/
def Listing.groups : Listing → List Group
  | .unnamed _ _ => []
  | .named groups _ => groups

/-- The types of a list, those of its groups as given. A variadic parameter is a slice. -/
def Listing.typesBy (ofGroup : Group → List GoType) : Listing → List GoType
  | .unnamed types variadic => types ++ (variadic.map fun t => GoType.slice t).toList
  | .named groups variadic =>
    groups.flatMap ofGroup ++ (variadic.map fun v => GoType.slice v.2).toList

/-- One type for each parameter. -/
def Listing.types (l : Listing) : List GoType := l.typesBy Group.types

/-- The types that a list is read as. -/
def Listing.read (l : Listing) : List GoType := l.typesBy Group.read

/-- One type for each result. -/
def Results.types : Results → List GoType
  | .none => []
  | .bare type => [type]
  | .listed list => list.types

/-- The types that results are read as. -/
def Results.read : Results → List GoType
  | .none => []
  | .bare type => [type]
  | .listed list => list.read

/-- The groups of results. -/
def Results.groups : Results → List Group
  | .none => []
  | .bare _ => []
  | .listed list => list.groups

theorem Group.length_surplus (g : Group) :
    g.surplus.length + min (g.others.length + 1) maxNames = g.others.length + 1 := by
  have hpos : 0 < maxNames := by decide
  rw [surplus, List.length_take]
  omega

/-- One type is read for each name, whatever it is read as. -/
theorem Group.length_read (g : Group) : g.read.length = g.types.length := by
  rw [read, types, List.length_append, List.length_map, List.length_replicate,
    List.length_replicate, length_surplus]

/-- A group is read as it is meant exactly where the names that are too many name its type. -/
theorem Group.read_eq_iff (g : Group) :
    g.read = g.types ↔ ∀ n ∈ g.surplus, nameType n = g.type := by
  have hsplit : g.types = List.replicate g.surplus.length g.type ++
      List.replicate (min (g.others.length + 1) maxNames) g.type := by
    rw [List.replicate_append_replicate, length_surplus, types]
  rw [read, hsplit, List.append_cancel_right_eq, List.map_eq_replicate_iff]

theorem flatMap_read_eq_iff (groups : List Group) :
    groups.flatMap Group.read = groups.flatMap Group.types ↔
      ∀ g ∈ groups, g.read = g.types := by
  induction groups with
  | nil => simp
  | cons g groups ih =>
      rw [List.flatMap_cons, List.flatMap_cons, List.forall_mem_cons, ← ih]
      constructor
      · -- both lists have one type for each name, so they split at the same place
        exact fun h => List.append_inj h g.length_read
      · rintro ⟨hfirst, hothers⟩
        rw [hfirst, hothers]

/-- A list is read as it is meant exactly where no name is read as another type. -/
theorem Listing.read_eq_iff (l : Listing) :
    l.read = l.types ↔ ∀ g ∈ l.groups, ∀ n ∈ g.surplus, nameType n = g.type := by
  cases l with
  | unnamed types variadic => simp [read, Listing.types, typesBy, groups]
  | named groups variadic =>
      rw [read, Listing.types, typesBy, typesBy, List.append_cancel_right_eq, flatMap_read_eq_iff]
      exact forall_congr' fun g => imp_congr_right fun _ => g.read_eq_iff

/-- Results are read as they are meant exactly where their list is. -/
theorem Results.read_eq_iff (r : Results) :
    r.read = r.types ↔ ∀ g ∈ r.groups, ∀ n ∈ g.surplus, nameType n = g.type := by
  cases r with
  | none => simp [read, types, groups]
  | bare type => simp [read, types, groups]
  | listed list => exact list.read_eq_iff

/-! ## §C How they are written -/

/-- What stands between two commas of a list. -/
inductive Piece where
  /-- A name whose type follows later. -/
  | shared (name : String)
  | typed (name : String) (type : GoType)
  | alone (type : GoType)
  | variadic (name : Option String) (type : GoType)

/-- The pieces of a group. -/
def Group.pieces (g : Group) : List Piece := g.others.map .shared ++ [.typed g.last g.type]

/-- The pieces of a list. -/
def Listing.pieces : Listing → List Piece
  | .unnamed types variadic => types.map .alone ++ (variadic.map fun t => .variadic none t).toList
  | .named groups variadic =>
    groups.flatMap Group.pieces ++ (variadic.map fun v => .variadic (some v.1) v.2).toList

/-- The text of a piece. -/
def Piece.text : Piece → List Char
  | .shared name => name.toList
  | .typed name type => name.toList ++ ' ' :: type.spell
  | .alone type => type.spell
  | .variadic none type => '.' :: '.' :: '.' :: type.spell
  | .variadic (some name) type => name.toList ++ ' ' :: '.' :: '.' :: '.' :: type.spell

/-- The pieces behind the first one, and the bracket that closes the list. -/
def piecesText : List Piece → List Char
  | [] => [')']
  | p :: ps => ',' :: ' ' :: p.text ++ piecesText ps

/-- The text of a list. -/
def listText : List Piece → List Char
  | [] => ['(', ')']
  | p :: ps => '(' :: p.text ++ piecesText ps

/-- The text of results behind the parameters. -/
def Results.text : Results → List Char
  | .none => []
  | .bare type => ' ' :: type.spell
  | .listed list => ' ' :: listText list.pieces

/-- The text of a method. -/
def Method.text (m : Method) : List Char :=
  m.name.toList ++ (listText m.params.pieces ++ m.results.text)

/-- The lines of methods, and the brace that closes the interface. -/
def methodsText : List Method → List Char
  | [] => ['}']
  | m :: ms => '\t' :: m.text ++ '\n' :: methodsText ms

/-- The text of an interface type with methods. -/
def interfaceText (ms : List Method) : List Char :=
  "interface \x7b\n".toList ++ methodsText ms

/-! ## §D What can be written -/

/-- Whether the names of a piece are names and its type is readable. -/
def Piece.isReadable : Piece → Bool
  | .shared name => isName name
  | .typed name type => isName name && type.isReadable
  | .alone type => type.isReadable
  | .variadic name type => name.all isName && type.isReadable

/-- Whether the names of a list are names and its types are readable. -/
def Listing.isReadable (l : Listing) : Bool := l.pieces.all Piece.isReadable

/-- Whether the results can be written. -/
def Results.isReadable : Results → Bool
  | .none => true
  | .bare type => type.isReadable
  | .listed list => list.isReadable

/-- Whether a method can be written. -/
def Method.isReadable (m : Method) : Bool :=
  isName m.name && m.params.isReadable && m.results.isReadable

end RollCall.Printed

namespace RollCall.Source.Plain

open RollCall.Printed
open RollCall.Text (Spot)
open RollCall.Text.Spot (Ahead)

/-! ## §E The tokens of an interface -/

/-- The tokens are those of the piece. -/
def SpellsPiece : Piece → List Token → Prop
  | .shared name, ts => ∃ t, ts = [t] ∧ t.shape = .name ∧ t.text = name.toList
  | .typed _ type, ts => ∃ first rest, ts = first :: rest ∧ first.shape = .name ∧ Spells type rest
  | .alone type, ts => Spells type ts
  | .variadic none type, ts =>
    ∃ dots rest, ts = dots :: rest ∧ dots.shape = .dots ∧ Spells type rest
  | .variadic (some _) type, ts =>
    ∃ first dots rest, ts = first :: dots :: rest ∧ first.shape = .name ∧ dots.shape = .dots ∧
      Spells type rest

/-- The tokens are those of the pieces behind the first one and of the bracket that closes the
list. -/
def SpellsPieces : List Piece → List Token → Prop
  | [], ts => ∃ closing, ts = [closing] ∧ closing.shape = .sign ')'
  | p :: ps, ts =>
    ∃ comma first rest, ts = comma :: (first ++ rest) ∧ comma.shape = .sign ',' ∧
      SpellsPiece p first ∧ SpellsPieces ps rest

/-- The tokens are those of the list. -/
def SpellsList : List Piece → List Token → Prop
  | [], ts => ∃ opening closing, ts = [opening, closing] ∧ opening.shape = .sign '(' ∧
      closing.shape = .sign ')'
  | p :: ps, ts =>
    ∃ opening first rest, ts = opening :: (first ++ rest) ∧ opening.shape = .sign '(' ∧
      SpellsPiece p first ∧ SpellsPieces ps rest

/-- The tokens are those of the results. -/
def SpellsResults : Results → List Token → Prop
  | .none, ts => ts = []
  | .bare type, ts => Spells type ts
  | .listed list, ts => SpellsList list.pieces ts

/-- The tokens are those of the method. -/
def SpellsMethod (m : Method) (ts : List Token) : Prop :=
  ∃ name params results, ts = name :: (params ++ results) ∧ name.shape = .name ∧
    name.text = m.name.toList ∧ SpellsList m.params.pieces params ∧ SpellsResults m.results results

/-- The tokens are those of the methods, each with the end of its line, and the brace that closes
the interface. -/
def SpellsMethods : List Method → List Token → Prop
  | [], ts => ∃ closing, ts = [closing] ∧ closing.shape = .sign '}'
  | m :: ms, ts =>
    ∃ first newline rest, ts = first ++ newline :: rest ∧ SpellsMethod m first ∧
      newline.shape = .newline ∧ SpellsMethods ms rest

/-- The tokens are those of an interface type with the methods. -/
def SpellsInterface (ms : List Method) (ts : List Token) : Prop :=
  ∃ word opening newline rest, ts = word :: opening :: newline :: rest ∧
    word.shape = .keyword .interface ∧ opening.shape = .sign '{' ∧ newline.shape = .newline ∧
    SpellsMethods ms rest

/-! ## §F The text is cut into them -/

/-- What stands between two commas is cut into its tokens. -/
theorem scans_piece {p : Piece} (h : p.isReadable = true) {s e : Spot} (hahead : Ahead s p.text e)
    (hmore : Bounded e.rest = true) : ∃ ts, Scans s ts e ∧ SpellsPiece p ts := by
  cases p with
  | shared name => exact ⟨_, scans_name h hahead hmore, _, rfl, rfl, hahead.textTo⟩
  | alone type => exact scannable type h hahead hmore
  | typed name type =>
      rw [Piece.isReadable, Bool.and_eq_true] at h
      obtain ⟨m₁, hname, hahead⟩ := hahead.split
      obtain ⟨m₂, hblank, hahead⟩ := hahead.head
      obtain ⟨ts, hscan, hspells⟩ := scannable type h.2 hahead hmore
      refine ⟨_, (scans_name h.1 hname (bounded_of_ahead hblank (by decide))).append
        ((scans_blank hblank).append hscan), ?_⟩
      exact ⟨_, _, rfl, rfl, hspells⟩
  | variadic name type =>
      rw [Piece.isReadable, Bool.and_eq_true] at h
      have hdots : '.' :: '.' :: '.' :: type.spell = ['.', '.', '.'] ++ type.spell := rfl
      cases name with
      | none =>
          rw [Piece.text, hdots] at hahead
          obtain ⟨m, hdots, hahead⟩ := hahead.split
          obtain ⟨ts, hscan, hspells⟩ := scannable type h.2 hahead hmore
          exact ⟨_, (scans_dots hdots).append hscan, _, _, rfl, rfl, hspells⟩
      | some name =>
          rw [Piece.text, hdots] at hahead
          obtain ⟨m₁, hname, hahead⟩ := hahead.split
          obtain ⟨m₂, hblank, hahead⟩ := hahead.head
          obtain ⟨m₃, hdots, hahead⟩ := hahead.split
          obtain ⟨ts, hscan, hspells⟩ := scannable type h.2 hahead hmore
          refine ⟨_, (scans_name h.1 hname (bounded_of_ahead hblank (by decide))).append
            ((scans_blank hblank).append ((scans_dots hdots).append hscan)), ?_⟩
          exact ⟨_, _, _, rfl, rfl, rfl, hspells⟩

theorem bounded_piecesText (ps : List Piece) (more : List Char) :
    Bounded (piecesText ps ++ more) = true := by
  cases ps <;> rfl

theorem scans_pieces {ps : List Piece} (h : ∀ p ∈ ps, p.isReadable = true) {s e : Spot}
    (hahead : Ahead s (piecesText ps) e) : ∃ ts, Scans s ts e ∧ SpellsPieces ps ts := by
  induction ps generalizing s with
  | nil => exact ⟨_, scans_sign (by decide) (by decide) hahead, _, rfl, rfl⟩
  | cons p ps ih =>
      have htext : piecesText (p :: ps) = [','] ++ ([' '] ++ (p.text ++ piecesText ps)) := rfl
      rw [htext] at hahead
      obtain ⟨m₁, hcomma, hahead⟩ := hahead.split
      obtain ⟨m₂, hblank, hahead⟩ := hahead.split
      obtain ⟨m₃, hfirst, hrest⟩ := hahead.split
      have hbounded : Bounded m₃.rest = true := by
        rw [hrest.1]
        exact bounded_piecesText ps e.rest
      obtain ⟨ts, hscan, hspells⟩ := scans_piece (h p List.mem_cons_self) hfirst hbounded
      obtain ⟨us, hscans, hspellsAll⟩ := ih (fun q hq => h q (List.mem_cons_of_mem _ hq)) hrest
      refine ⟨_, (scans_sign (by decide) (by decide) hcomma).append
        ((scans_blank hblank).append (hscan.append hscans)), ?_⟩
      exact ⟨_, ts, us, rfl, rfl, hspells, hspellsAll⟩

/-- A list is cut into its tokens, from bracket to bracket. -/
theorem scans_list {ps : List Piece} (h : ∀ p ∈ ps, p.isReadable = true) {s e : Spot}
    (hahead : Ahead s (listText ps) e) : ∃ ts, Scans s ts e ∧ SpellsList ps ts := by
  cases ps with
  | nil =>
      obtain ⟨m, hopening, hclosing⟩ := hahead.head
      refine ⟨_, (scans_sign (by decide) (by decide) hopening).append
        (scans_sign (by decide) (by decide) hclosing), ?_⟩
      exact ⟨_, _, rfl, rfl, rfl⟩
  | cons p ps =>
      obtain ⟨m₁, hopening, hahead⟩ := hahead.head
      obtain ⟨m₂, hfirst, hrest⟩ := hahead.split
      have hbounded : Bounded m₂.rest = true := by
        rw [hrest.1]
        exact bounded_piecesText ps e.rest
      obtain ⟨ts, hscan, hspells⟩ := scans_piece (h p List.mem_cons_self) hfirst hbounded
      obtain ⟨us, hscans, hspellsAll⟩ :=
        scans_pieces (fun q hq => h q (List.mem_cons_of_mem _ hq)) hrest
      refine ⟨_, (scans_sign (by decide) (by decide) hopening).append (hscan.append hscans), ?_⟩
      exact ⟨_, ts, us, rfl, rfl, hspells, hspellsAll⟩

theorem bounded_listText (ps : List Piece) (more : List Char) :
    Bounded (listText ps ++ more) = true := by
  cases ps <;> rfl

theorem scans_results {r : Results} (h : r.isReadable = true) {s e : Spot}
    (hahead : Ahead s r.text e) (hmore : Bounded e.rest = true) :
    ∃ ts, Scans s ts e ∧ SpellsResults r ts := by
  cases r with
  | none =>
      have hsame : e = s := hahead.2
      rw [hsame]
      exact ⟨_, .done s, rfl⟩
  | bare type =>
      obtain ⟨m, hblank, hahead⟩ := hahead.head
      obtain ⟨ts, hscan, hspells⟩ := scannable type h hahead hmore
      exact ⟨_, (scans_blank hblank).append hscan, hspells⟩
  | listed list =>
      obtain ⟨m, hblank, hahead⟩ := hahead.head
      obtain ⟨ts, hscan, hspells⟩ := scans_list (List.all_eq_true.mp h) hahead
      exact ⟨_, (scans_blank hblank).append hscan, hspells⟩

/-- The line of a method is cut into the tokens of the method. -/
theorem scans_method {m : Method} (h : m.isReadable = true) {s e : Spot} (hahead : Ahead s m.text e)
    (hmore : Bounded e.rest = true) : ∃ ts, Scans s ts e ∧ SpellsMethod m ts := by
  rw [Method.isReadable, Bool.and_eq_true, Bool.and_eq_true] at h
  obtain ⟨⟨hname, hparams⟩, hresults⟩ := h
  obtain ⟨m₁, hnameAhead, hahead⟩ := hahead.split
  obtain ⟨m₂, hparamsAhead, hresultsAhead⟩ := hahead.split
  have hbounded : Bounded m₁.rest = true := by
    rw [hparamsAhead.1]
    exact bounded_listText _ _
  obtain ⟨ts, hscan, hspells⟩ := scans_list (List.all_eq_true.mp hparams) hparamsAhead
  obtain ⟨us, hscan', hspells'⟩ := scans_results hresults hresultsAhead hmore
  refine ⟨_, (scans_name hname hnameAhead hbounded).append (hscan.append hscan'), ?_⟩
  exact ⟨_, ts, us, rfl, rfl, hnameAhead.textTo, hspells, hspells'⟩

theorem scans_methods {ms : List Method} (h : ∀ m ∈ ms, m.isReadable = true) {s e : Spot}
    (hahead : Ahead s (methodsText ms) e) : ∃ ts, Scans s ts e ∧ SpellsMethods ms ts := by
  induction ms generalizing s with
  | nil => exact ⟨_, scans_sign (by decide) (by decide) hahead, _, rfl, rfl⟩
  | cons m ms ih =>
      have htext : methodsText (m :: ms) = ['\t'] ++ (m.text ++ (['\n'] ++ methodsText ms)) := rfl
      rw [htext] at hahead
      obtain ⟨m₁, htab, hahead⟩ := hahead.split
      obtain ⟨m₂, hmethod, hahead⟩ := hahead.split
      obtain ⟨m₃, hnewline, hrest⟩ := hahead.split
      obtain ⟨ts, hscan, hspells⟩ := scans_method (h m List.mem_cons_self) hmethod
        (bounded_of_ahead hnewline (by decide))
      obtain ⟨us, hscans, hspellsAll⟩ := ih (fun k hk => h k (List.mem_cons_of_mem _ hk)) hrest
      refine ⟨_, (scans_tab htab).append (hscan.append ((scans_line hnewline).append hscans)), ?_⟩
      exact ⟨ts, _, us, rfl, hspells, rfl, hspellsAll⟩

/-- The text of a printed interface is cut into the tokens of its methods. -/
theorem scans_interface {ms : List Method} (h : ∀ m ∈ ms, m.isReadable = true) {s e : Spot}
    (hahead : Ahead s (interfaceText ms) e) : ∃ ts, Scans s ts e ∧ SpellsInterface ms ts := by
  have htext : interfaceText ms = opened .interface ++ (['\n'] ++ methodsText ms) := by
    have hopened : "interface \x7b\n".toList = opened .interface ++ ['\n'] := by decide +kernel
    have hsame : interfaceText ms = "interface \x7b\n".toList ++ methodsText ms := rfl
    rw [hsame, hopened]
    exact List.append_assoc _ _ _
  rw [htext] at hahead
  obtain ⟨m₁, hopened, hahead⟩ := hahead.split
  obtain ⟨m₂, hnewline, hrest⟩ := hahead.split
  obtain ⟨word, opening, hscan, hword, hopening⟩ := scans_opened .interface hopened
  obtain ⟨ts, hscans, hspells⟩ := scans_methods h hrest
  refine ⟨_, hscan.append ((scans_line hnewline).append hscans), ?_⟩
  exact ⟨word, opening, _, ts, rfl, hword, hopening, rfl, hspells⟩

end RollCall.Source.Plain
