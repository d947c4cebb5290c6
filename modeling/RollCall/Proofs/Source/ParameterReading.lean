import Mathlib.Data.List.Forall2
import RollCall.Proofs.Source.Printed
import RollCall.Proofs.Source.TypeReading

/-!
# RollCall.Proofs.Source.ParameterReading — lists of parameters are read from their tokens

A list of parameters is read in two rounds. First every piece between two commas becomes an entry; a
name alone is left open, since it may be a type or share the type of what follows. Then `joined`
goes through the entries from the back and settles them. `entry_reads` says what entry a piece
becomes, `joined_group` what becomes of the entries of a group, however many names it has, and
`parameters_reads` puts the rounds together: the types of the tree are those that the list is read
as.
-/

namespace RollCall.Source.Plain

open RollCall.Printed

/-! ## §A The types of a parameter -/

/-- The types that a child adds to the types of a parameter list. -/
def paramTypesOf (param : Outline) : List GoType :=
  match param.kind, (param.child? .type).map typeOf with
  | .parameter, some type => paramTypes.repeated param type
  | .variadicParameter, some type => paramTypes.repeated param (.slice type)
  | _, _ => []

theorem paramTypes_eq (list : Outline) : paramTypes list = list.children.flatMap paramTypesOf := rfl

/-- The parts of a parameter: its names and its type. -/
structure Parts (names : Nat) (t : GoType) (parts : List Outline) : Prop where
  type : (parts.find? fun c => c.role == some .type).map typeOf = some t
  names : (parts.filter fun c => c.kind == .name).length = names
  clean : ∀ c ∈ parts, Clean c

/-- The tree of a parameter and the types that it stands for. -/
structure OutlinesParam (o : Outline) (types : List GoType) : Prop where
  types : paramTypesOf o = types
  clean : Clean o

theorem Parts.repeated {names : Nat} {t : GoType} {parts : List Outline} (h : Parts names t parts)
    (kind : Kind) (role : Option Role) (t' : GoType) :
    paramTypes.repeated (.ofChildren kind role parts) t' = List.replicate (max names 1) t' := by
  rw [paramTypes.repeated, children_ofChildren, h.names]

theorem Parts.parameter {names : Nat} {t : GoType} {parts : List Outline}
    (h : Parts names t parts) :
    OutlinesParam (.ofChildren .parameter none parts) (List.replicate (max names 1) t) := by
  refine ⟨?_, clean_ofChildren (by decide) (by decide) none h.clean⟩
  rw [paramTypesOf, kind_ofChildren, Outline.child?, children_ofChildren, h.type]
  exact h.repeated .parameter none t

theorem Parts.variadic {names : Nat} {t : GoType} {parts : List Outline} (h : Parts names t parts) :
    OutlinesParam (.ofChildren .variadicParameter none parts)
      (List.replicate (max names 1) (.slice t)) := by
  refine ⟨?_, clean_ofChildren (by decide) (by decide) none h.clean⟩
  rw [paramTypesOf, kind_ofChildren, Outline.child?, children_ofChildren, h.type]
  exact h.repeated .variadicParameter none (.slice t)

theorem parts_type {o : Outline} {t : GoType} (h : Outlines o (some .type) t) : Parts 0 t [o] := by
  refine ⟨?_, ?_, by simp [h.clean]⟩
  · rw [List.find?_cons, h.role, beq_self_eq_true]
    exact congrArg some h.type
  · have hkind : o.kind ≠ .name := Kind.ne_of_isType h.kind rfl
    simp [hkind]

theorem Parts.cons_leaf {names : Nat} {t : GoType} {parts : List Outline} (h : Parts names t parts)
    (first : Token) : Parts (if first.shape = .name then names + 1 else names) t
      (first.leaf :: parts) := by
  have hrole : (first.leaf.role == some Role.type) = false := rfl
  refine ⟨?_, ?_, by simpa using h.clean⟩
  · rw [List.find?_cons, hrole]
    exact h.type
  · have hkind : (first.leaf.kind == .name) = decide (first.shape = .name) := by
      have hleaf : first.leaf.kind = first.shape.kind := rfl
      rw [hleaf]
      cases first.shape <;> rfl
    rw [List.filter_cons, hkind]
    split
    · rename_i hname
      rw [if_pos (of_decide_eq_true hname), List.length_cons, h.names]
    · rename_i hname
      rw [if_neg fun heq => hname (decide_eq_true heq), h.names]

theorem paramTypesOf_leaf (t : Token) : paramTypesOf t.leaf = [] := by
  have hkind : t.leaf.kind = t.shape.kind := rfl
  rw [paramTypesOf, hkind]
  cases t.shape <;> rfl

/-! ## §B Entries -/

/-- The entry that a piece becomes. A type that is a plain name is left open like a name. -/
inductive Enters : Piece → Entry → Prop
  | shared {name : String} {t : Token} : t.shape = .name → t.text = name.toList →
      Enters (.shared name) (.bare t)
  | name {name : String} {t : Token} : t.text = name.toList → name ≠ "any" →
      Enters (.alone (.named none name)) (.bare t)
  | alone {type : GoType} {o : Outline} : OutlinesParam o [type] → Enters (.alone type) (.whole o)
  | typed {name : String} {type : GoType} {parts : List Outline} : Parts 1 type parts →
      Enters (.typed name type) (.typed 1 parts)
  | variadic {name : Option String} {type : GoType} {o : Outline} :
      OutlinesParam o [.slice type] → Enters (.variadic name type) (.whole o)

theorem entry_bare {type : TypeReader} {t : Token} (ht : t.shape = .name) {rest : List Token}
    (hrest : Ends ',' ')' rest) : entry type (t :: rest) = some (.bare t, rest) := by
  rw [entry, ht]
  simp only
  rcases hrest.peek false with hpeek | hpeek
  all_goals
    rw [hpeek]
    rfl

/-- Where a type starts that is no plain name, the entry is the type. -/
theorem entry_alone {type : TypeReader} {t : Token} {ts : List Token}
    (ht : t.shape.startsType = true)
    (hname : t.shape = .name → peek false ts = some (.sign '.')) :
    entry type (t :: ts) = (type false (some .type) (t :: ts)).map fun (o, rest) =>
      (.whole (Outline.ofChildren .parameter none [o]), rest) := by
  rw [entry]
  cases hshape : t.shape with
  | name =>
      simp only
      rw [hname hshape]
      rfl
  | dots =>
      rw [hshape] at ht
      cases ht
  | _ => rfl

theorem entry_type {t : GoType} (hreadable : t.isReadable = true) {ts : List Token}
    (h : Spells t ts) {fuel : Nat} (hfuel : ts.length ≤ fuel) {rest : List Token}
    (hrest : Ends ',' ')' rest) :
    ∃ e, entry (type fuel) (ts ++ rest) = some (e, rest) ∧ Enters (.alone t) e := by
  -- a plain name could also be the name of a parameter; every other type is read at once
  by_cases hplain : ∃ name, t = .named none name
  · obtain ⟨name, rfl⟩ := hplain
    obtain ⟨first, rfl, hfirst, htext⟩ := h
    rw [GoType.isReadable, Bool.and_eq_true, bne_iff_ne] at hreadable
    exact ⟨.bare first, entry_bare hfirst hrest, .name htext hreadable.2⟩
  · obtain ⟨o, hread, ho⟩ :=
      reads t hreadable h hfuel false (some .type) (hrest.noPoint (by decide) (by decide) false)
    obtain ⟨first, inner, rfl, hfirst⟩ := spells_headShape h
    have hname : first.shape = .name → peek false (inner ++ rest) = some (.sign '.') := by
      intro hname
      cases t with
      | named package name =>
          cases package with
          | none => exact absurd ⟨name, rfl⟩ hplain
          | some package =>
              obtain ⟨first', point, last, heq, -, hpoint, -⟩ := h
              obtain ⟨rfl, rfl⟩ := List.cons.inj heq
              rw [List.cons_append, peek_shape false _ hpoint rfl]
      | other text => cases h
      | _ =>
          rw [hname] at hfirst
          cases hfirst
    refine ⟨_, ?_, .alone (parts_type ho).parameter⟩
    rw [List.cons_append, entry_alone (hfirst ▸ startsType_headShape t) hname]
    exact congrArg (Option.map _) hread

theorem entry_typed {name : String} {t : GoType} (hreadable : t.isReadable = true) {first : Token}
    (hfirst : first.shape = .name) {inner : List Token} (h : Spells t inner) {fuel : Nat}
    (hfuel : inner.length ≤ fuel) {rest : List Token} (hrest : Ends ',' ')' rest) :
    ∃ e, entry (type fuel) (first :: (inner ++ rest)) = some (e, rest) ∧
      Enters (.typed name t) e := by
  obtain ⟨o, hnode, ho⟩ := Reads.node (reads t) hreadable h hfuel false (some .type)
    (hrest.noPoint (by decide) (by decide) false) [first.leaf]
  have hparts := (parts_type ho).cons_leaf first
  rw [if_pos hfirst] at hparts
  refine ⟨_, ?_, .typed hparts⟩
  obtain ⟨head, more, rfl, hhead⟩ := spells_head h
  have hpeek : peek false (head :: more ++ rest) = some head.shape :=
    peek_solid false (more ++ rest) (startsType_isSolid hhead)
  rw [entry, hfirst]
  simp only
  rw [hpeek, hnode]
  cases hshape : head.shape with
  | sign c =>
      rw [hshape] at hhead
      have hc : c = '*' ∨ c = '[' := by simpa [Shape.startsType] using hhead
      rcases hc with rfl | rfl <;> rfl
  | dots =>
      rw [hshape] at hhead
      cases hhead
  | _ => rfl

theorem entry_variadic {name : Option String} {t : GoType}
    (hreadable : (Piece.variadic name t).isReadable = true) {ts : List Token}
    (h : SpellsPiece (.variadic name t) ts) {fuel : Nat} (hfuel : ts.length ≤ fuel)
    {rest : List Token} (hrest : Ends ',' ')' rest) :
    ∃ e, entry (type fuel) (ts ++ rest) = some (e, rest) ∧ Enters (.variadic name t) e := by
  rw [Piece.isReadable, Bool.and_eq_true] at hreadable
  cases name with
  | none =>
      obtain ⟨dots, inner, rfl, hdots, hinner⟩ := h
      obtain ⟨o, hnode, ho⟩ := Reads.node (reads t) hreadable.2 hinner (Nat.le_of_succ_le hfuel)
        false (some .type) (hrest.noPoint (by decide) (by decide) false) [dots.leaf]
      have hparts := (parts_type ho).cons_leaf dots
      rw [if_neg (by rw [hdots]; decide)] at hparts
      refine ⟨_, ?_, .variadic hparts.variadic⟩
      rw [List.cons_append, entry, hdots]
      simp only
      rw [hnode]
      rfl
  | some name =>
      obtain ⟨first, dots, inner, rfl, hfirst, hdots, hinner⟩ := h
      have hlength : inner.length ≤ fuel := by
        simp only [List.length_cons] at hfuel
        omega
      obtain ⟨o, hnode, ho⟩ := Reads.node (reads t) hreadable.2 hinner hlength false (some .type)
        (hrest.noPoint (by decide) (by decide) false) ([first.leaf] ++ [dots.leaf])
      have hparts := ((parts_type ho).cons_leaf dots).cons_leaf first
      rw [if_pos hfirst, if_neg (by rw [hdots]; decide)] at hparts
      refine ⟨_, ?_, .variadic hparts.variadic⟩
      have hpeek : peek false (dots :: (inner ++ rest)) = some .dots := peek_shape false _ hdots rfl
      rw [List.cons_append, List.cons_append, entry, hfirst]
      simp only
      rw [hpeek]
      simp only
      rw [take_solid hdots rfl, Option.bind_some, hnode]
      rfl

/-- A piece is read as the entry that it becomes. -/
theorem entry_reads {p : Piece} (hreadable : p.isReadable = true) {ts : List Token}
    (h : SpellsPiece p ts) {fuel : Nat} (hfuel : ts.length ≤ fuel) {rest : List Token}
    (hrest : Ends ',' ')' rest) :
    ∃ e, entry (type fuel) (ts ++ rest) = some (e, rest) ∧ Enters p e := by
  cases p with
  | shared name =>
      obtain ⟨t, rfl, ht, htext⟩ := h
      exact ⟨.bare t, entry_bare ht hrest, .shared ht htext⟩
  | typed name t =>
      rw [Piece.isReadable, Bool.and_eq_true] at hreadable
      obtain ⟨first, inner, rfl, hfirst, hinner⟩ := h
      exact entry_typed hreadable.2 hfirst hinner (Nat.le_of_succ_le hfuel) hrest
  | alone t => exact entry_type hreadable h hfuel hrest
  | variadic name t => exact entry_variadic hreadable h hfuel hrest

/-! ## §C All entries of a list -/

/-- What stands in front of an entry: nothing, or commas. -/
def Commas (between : List Outline) : Prop :=
  ∀ c ∈ between, ∃ t : Token, t.shape = .sign ',' ∧ c = t.leaf

/-- The entry of a piece, with what stands in front of it. -/
def Entered (x : List Outline × Entry) (p : Piece) : Prop := Commas x.1 ∧ Enters p x.2

theorem spellsPiece_head {p : Piece} {ts : List Token} (h : SpellsPiece p ts) :
    ∃ first rest, ts = first :: rest ∧ first.shape.isSolid = true ∧ first.shape ≠ .sign ')' := by
  have hname : ∀ {t : Token}, t.shape = .name →
      t.shape.isSolid = true ∧ t.shape ≠ .sign ')' := by
    intro t ht
    rw [ht]
    decide
  cases p with
  | shared name =>
      obtain ⟨t, rfl, ht, -⟩ := h
      exact ⟨t, [], rfl, hname ht⟩
  | typed name t =>
      obtain ⟨first, inner, rfl, hfirst, -⟩ := h
      exact ⟨first, inner, rfl, hname hfirst⟩
  | alone t =>
      obtain ⟨first, inner, rfl, hfirst⟩ := spells_head h
      refine ⟨first, inner, rfl, startsType_isSolid hfirst, ?_⟩
      intro hclosing
      rw [hclosing] at hfirst
      cases hfirst
  | variadic name t =>
      cases name with
      | none =>
          obtain ⟨dots, inner, rfl, hdots, -⟩ := h
          exact ⟨dots, inner, rfl, by rw [hdots]; decide⟩
      | some name =>
          obtain ⟨first, dots, inner, rfl, hfirst, -⟩ := h
          exact ⟨first, _, rfl, hname hfirst⟩

/-- One entry is read; what stands behind it decides how it goes on. -/
theorem entries_step {p : Piece} (hreadable : p.isReadable = true) {ts : List Token}
    (h : SpellsPiece p ts) {fuel : Nat} (hfuel : ts.length ≤ fuel) {rest : List Token}
    (hrest : Ends ',' ')' rest) (n : Nat) (between : List Outline) :
    ∃ e, Enters p e ∧ entries (type fuel) (n + 1) between (ts ++ rest) =
      if peek false rest = some (.sign ',') then
        ((⟨[], rest⟩ : Progress).take (.sign ',')).bind fun q =>
          (entries (type fuel) n q.done q.rest).map fun (es, q) => ((between, e) :: es, q)
      else ((⟨[], rest⟩ : Progress).take (.sign ')')).map fun q => ([(between, e)], q) := by
  obtain ⟨e, hread, he⟩ := entry_reads hreadable h hfuel hrest
  obtain ⟨first, inner, rfl, hsolid, hfirst⟩ := spellsPiece_head h
  refine ⟨e, he, ?_⟩
  have hhead : (first :: (inner ++ rest)).head?.map Token.shape ≠ some (.sign ')') :=
    fun hclosing => hfirst (Option.some.inj hclosing)
  rw [List.cons_append, entries, gap_solid false _ hsolid]
  dsimp only
  rw [if_neg hhead, ← List.cons_append, hread, Option.bind_some, List.append_nil]

/-- All pieces of a list are read, one after the other, up to its closing bracket. -/
theorem entries_reads {p : Piece} {ps : List Piece} (hreadable : ∀ q ∈ p :: ps, q.isReadable = true)
    {first others : List Token} (hfirst : SpellsPiece p first) (hothers : SpellsPieces ps others)
    {fuel n : Nat} (hfuel : first.length + others.length ≤ fuel) (hn : others.length ≤ n)
    {between : List Outline} (hbetween : Commas between) (rest : List Token) :
    ∃ es closing, entries (type fuel) n between (first ++ (others ++ rest)) =
        some (es, ⟨[Token.leaf closing], rest⟩) ∧ List.Forall₂ Entered es (p :: ps) := by
  -- on the pieces behind the first one, since the comma belongs to the piece that follows it
  induction ps generalizing p first others n between with
  | nil =>
      obtain ⟨closing, rfl, hclosing⟩ := hothers
      obtain ⟨n, rfl⟩ := Nat.exists_eq_add_of_le' hn
      obtain ⟨e, he, hstep⟩ := entries_step (hreadable p List.mem_cons_self) hfirst
        (Nat.le_of_add_right_le hfuel) ⟨closing, rest, rfl, .inr hclosing⟩ n between
      have hpeek : peek false (closing :: rest) ≠ some (.sign ',') := by
        rw [peek_shape false _ hclosing rfl]
        decide
      refine ⟨[(between, e)], closing, ?_, .cons ⟨hbetween, he⟩ .nil⟩
      rw [List.singleton_append, List.length_singleton, hstep, if_neg hpeek,
        take_solid hclosing rfl]
      rfl
  | cons q ps ih =>
      obtain ⟨comma, second, others, rfl, hcomma, hsecond, hothers⟩ := hothers
      simp only [List.length_cons, List.length_append] at hfuel hn
      obtain ⟨n, rfl⟩ := Nat.exists_eq_add_of_le' (Nat.le_of_add_left_le hn)
      have hfuel' : second.length + others.length ≤ fuel := by omega
      have hn' : others.length ≤ n := by omega
      have hcommas : Commas [comma.leaf] := by
        intro c hc
        exact ⟨comma, hcomma, List.mem_singleton.mp hc⟩
      obtain ⟨es, closing, hes, hentered⟩ :=
        ih (fun r hr => hreadable r (List.mem_cons_of_mem _ hr)) hsecond hothers hfuel' hn' hcommas
      obtain ⟨e, he, hstep⟩ := entries_step (hreadable p List.mem_cons_self) hfirst
        (Nat.le_of_add_right_le hfuel) ⟨comma, second ++ (others ++ rest), rfl, .inl hcomma⟩ n
        between
      have hpeek : peek false (comma :: (second ++ (others ++ rest))) = some (.sign ',') :=
        peek_shape false _ hcomma rfl
      refine ⟨(between, e) :: es, closing, ?_, .cons ⟨hbetween, he⟩ hentered⟩
      rw [List.cons_append, List.append_assoc, hstep, if_pos hpeek, take_solid hcomma rfl,
        Option.bind_some, List.nil_append, hes]
      rfl

/-! ## §D Names that share a type -/

/-- A name that is left open shares the type of the names behind it, where there is room. -/
theorem joined_room {between next : List Outline} {t : Token}
    {es later : List (List Outline × Entry)} {names : Nat} {parts : List Outline}
    (h : joined es = (next, .typed names parts) :: later)
    (hroom : names < maxNames) :
    joined ((between, .bare t) :: es) =
      (between, .typed (names + 1) (t.leaf :: next ++ parts)) :: later := by
  rw [joined, h]
  dsimp only
  rw [if_pos hroom]

/-- The entry of a name that is a type. -/
def nameEntry (between : List Outline) (t : Token) : List Outline × Entry :=
  (between, .whole (Outline.ofChildren .parameter none [t.node .typeName (some .type)]))

/-- A name that is left open is a type where no names follow that have room for it. -/
theorem joined_bare {between : List Outline} {t : Token} {es : List (List Outline × Entry)}
    (h : ∀ next names parts later, joined es = (next, .typed names parts) :: later →
      ¬names < maxNames) :
    joined ((between, .bare t) :: es) = nameEntry between t :: joined es := by
  rw [joined]
  split
  · rename_i next names parts later heq
    rw [if_neg (h next names parts later heq), heq]
    rfl
  · rfl

theorem outlinesParam_name {t : Token} {name : String} (htext : t.text = name.toList) :
    OutlinesParam (.ofChildren .parameter none [t.node .typeName (some .type)])
      [nameType name] := by
  have hany : (name.toList == "any".toList) = (name == "any") := by
    rw [Bool.eq_iff_iff, beq_iff_eq, beq_iff_eq, String.toList_inj]
  have hname : typeOf (t.node .typeName (some .type)) = nameType name := by
    have htype : typeOf (t.node .typeName (some .type)) =
        if t.text == "any".toList then .interface else .named none (String.ofList t.text) := rfl
    rw [htype, htext, String.ofList_toList, hany, nameType]
  have hparts : Parts 0 (nameType name) [t.node .typeName (some .type)] :=
    ⟨congrArg some hname, rfl,
      List.forall_mem_singleton.mpr (clean_token t (by decide) (by decide) _)⟩
  exact hparts.parameter

theorem Parts.commas {names : Nat} {t : GoType} {parts : List Outline} (h : Parts names t parts)
    {next : List Outline} (hnext : Commas next) : Parts names t (next ++ parts) := by
  induction next with
  | nil => exact h
  | cons c next ih =>
      obtain ⟨⟨comma, hcomma, rfl⟩, hothers⟩ := List.forall_mem_cons.mp hnext
      have hparts := (ih hothers).cons_leaf comma
      rwa [if_neg (by rw [hcomma]; decide)] at hparts

/-- The entry is a type that is only a name. -/
def IsNameType (x : List Outline × Entry) (name : String) : Prop :=
  Commas x.1 ∧ ∃ o, x.2 = .whole o ∧ OutlinesParam o [nameType name]

theorem isNameType_nameEntry {between : List Outline} (hcommas : Commas between) {t : Token}
    {name : String} (htext : t.text = name.toList) : IsNameType (nameEntry between t) name :=
  ⟨hcommas, _, rfl, outlinesParam_name htext⟩

/-- What becomes of the entries of a group: the names at the back share the type, as many as can,
and those in front are types. -/
theorem joined_group {names : List String} {last : String} {t : GoType}
    {es later : List (List Outline × Entry)}
    (h : List.Forall₂ Entered es (names.map .shared ++ [.typed last t])) :
    ∃ front next parts,
      joined (es ++ later) =
        front ++ (next, .typed (min (names.length + 1) maxNames) parts) :: joined later ∧
      Commas next ∧ Parts (min (names.length + 1) maxNames) t parts ∧
      List.Forall₂ IsNameType front (names.take (names.length + 1 - maxNames)) := by
  induction names generalizing es with
  | nil =>
      obtain ⟨⟨next, e⟩, tail, ⟨hcommas, hentry⟩, htail, rfl⟩ := List.forall₂_cons_right_iff.mp h
      obtain rfl := List.forall₂_nil_right_iff.mp htail
      obtain _ | _ | _ | hparts | _ := hentry
      exact ⟨[], next, _, rfl, hcommas, hparts, .nil⟩
  | cons name names ih =>
      obtain ⟨⟨between, e⟩, tail, ⟨hcommas, hentry⟩, htail, rfl⟩ := List.forall₂_cons_right_iff.mp h
      obtain ⟨hshape, htext⟩ | _ | _ | _ | _ := hentry
      rename_i first
      obtain ⟨front, next, parts, hjoined, hnext, hparts, hfront⟩ := ih htail
      have hlength := hfront.length_eq
      have hmax : maxNames = 9 := rfl
      rw [List.length_take] at hlength
      rw [List.length_cons, List.cons_append]
      by_cases hroom : names.length + 1 < maxNames
      · -- there is room for one more name
        obtain rfl : front = [] := List.eq_nil_of_length_eq_zero (by omega)
        have hcount :
            min (names.length + 1) maxNames + 1 = min (names.length + 1 + 1) maxNames := by omega
        have hmore := (hparts.commas hnext).cons_leaf first
        rw [if_pos hshape, hcount] at hmore
        refine ⟨[], between, first.leaf :: next ++ parts, ?_, hcommas, hmore, ?_⟩
        · rw [joined_room hjoined (by omega), hcount]
          rfl
        · rw [Nat.sub_eq_zero_of_le (by omega)]
          exact .nil
      · -- the name is one too many
        have hcount : min (names.length + 1) maxNames = min (names.length + 1 + 1) maxNames := by
          omega
        have hsurplus : names.length + 1 + 1 - maxNames = names.length + 1 - maxNames + 1 := by
          omega
        rw [hcount] at hjoined hparts
        have hfull : ∀ next' names' parts' later', joined (tail ++ later) =
            (next', .typed names' parts') :: later' → ¬names' < maxNames := by
          intro next' names' parts' later' heq
          rw [hjoined] at heq
          cases front with
          | nil =>
              obtain ⟨rfl, -⟩ := Entry.typed.inj (Prod.ext_iff.mp (List.cons.inj heq).1).2
              omega
          | cons x front =>
              obtain ⟨_, _, ⟨-, o, hwhole, -⟩, -⟩ := List.forall₂_cons_left_iff.mp hfront
              have hfirst := (Prod.ext_iff.mp (List.cons.inj heq).1).2
              rw [hwhole] at hfirst
              cases hfirst
        refine ⟨nameEntry between first :: front, next, parts, ?_, hnext, hparts, ?_⟩
        · rw [joined_bare hfull, hjoined]
          rfl
        · rw [hsurplus, List.take_succ_cons]
          exact .cons (isNameType_nameEntry hcommas htext) hfront

/-! ## §E The types of a list -/

/-- The settled entries stand for the types. -/
structure Settled (xs : List (List Outline × Entry)) (types : List GoType) : Prop where
  commas : ∀ x ∈ xs, Commas x.1
  clean : ∀ x ∈ xs, Clean x.2.outline
  types : xs.flatMap (fun x => paramTypesOf x.2.outline) = types

theorem settled_nil : Settled [] [] :=
  ⟨List.forall_mem_nil _, List.forall_mem_nil _, rfl⟩

theorem Settled.cons {x : List Outline × Entry} {xs : List (List Outline × Entry)}
    {types others : List GoType} (hcommas : Commas x.1) (hx : OutlinesParam x.2.outline types)
    (h : Settled xs others) : Settled (x :: xs) (types ++ others) := by
  refine ⟨List.forall_mem_cons.mpr ⟨hcommas, h.commas⟩,
    List.forall_mem_cons.mpr ⟨hx.clean, h.clean⟩, ?_⟩
  rw [List.flatMap_cons, hx.types, h.types]

theorem Settled.one {x : List Outline × Entry} {xs : List (List Outline × Entry)} {t : GoType}
    {others : List GoType} (hcommas : Commas x.1) (hx : OutlinesParam x.2.outline [t])
    (h : Settled xs others) : Settled (x :: xs) (t :: others) :=
  h.cons hcommas hx

theorem settled_names {xs later : List (List Outline × Entry)} {names : List String}
    {types : List GoType} (h : List.Forall₂ IsNameType xs names) (hlater : Settled later types) :
    Settled (xs ++ later) (names.map nameType ++ types) := by
  induction h with
  | nil => exact hlater
  | cons hx _ ih =>
      obtain ⟨hcommas, o, hwhole, ho⟩ := hx
      exact ih.one hcommas (by rw [hwhole]; exact ho)

/-- The entries of a group stand for the types that it is read as. -/
theorem settled_group {g : Group} {es later : List (List Outline × Entry)} {types : List GoType}
    (h : List.Forall₂ Entered es g.pieces) (hlater : Settled (joined later) types) :
    Settled (joined (es ++ later)) (g.read ++ types) := by
  obtain ⟨front, next, parts, hjoined, hnext, hparts, hfront⟩ := joined_group h
  have hpos : max (min (g.others.length + 1) maxNames) 1 = min (g.others.length + 1) maxNames := by
    have hmax : maxNames = 9 := rfl
    omega
  have hgroup := hparts.parameter
  rw [hpos] at hgroup
  rw [hjoined, Group.read, List.append_assoc]
  exact settled_names hfront (hlater.cons hnext hgroup)

theorem settled_groups {groups : List Group} {es later : List (List Outline × Entry)}
    {types : List GoType} (h : List.Forall₂ Entered es (groups.flatMap Group.pieces))
    (hlater : Settled (joined later) types) :
    Settled (joined (es ++ later)) (groups.flatMap Group.read ++ types) := by
  induction groups generalizing es with
  | nil =>
      obtain rfl := List.forall₂_nil_right_iff.mp h
      exact hlater
  | cons g groups ih =>
      rw [List.flatMap_cons] at h ⊢
      have hfirst := List.forall₂_take_append es _ _ h
      have hothers := ih (List.forall₂_drop_append es _ _ h)
      have hall := settled_group hfirst hothers
      rwa [← List.append_assoc, List.take_append_drop, ← List.append_assoc] at hall

/-- A variadic parameter at the end stands for a slice. -/
theorem settled_variadic {α : Type} {v : Option α} {name : α → Option String} {type : α → GoType}
    {es : List (List Outline × Entry)}
    (h : List.Forall₂ Entered es (v.map fun a => .variadic (name a) (type a)).toList) :
    Settled (joined es) (v.map fun a => GoType.slice (type a)).toList ∧
      ∀ x ∈ joined es, ∃ o, x.2 = .whole o := by
  cases v with
  | none =>
      obtain rfl := List.forall₂_nil_right_iff.mp h
      exact ⟨settled_nil, List.forall_mem_nil _⟩
  | some a =>
      obtain ⟨⟨between, e⟩, tail, ⟨hcommas, hentry⟩, htail, rfl⟩ := List.forall₂_cons_right_iff.mp h
      obtain rfl := List.forall₂_nil_right_iff.mp htail
      obtain _ | _ | _ | _ | ho := hentry
      exact ⟨settled_nil.one hcommas ho, List.forall_mem_singleton.mpr ⟨_, rfl⟩⟩

/-- Types without names stand for themselves. -/
theorem settled_types {types others : List GoType} {es later : List (List Outline × Entry)}
    (h : List.Forall₂ Entered es (types.map .alone)) (hlater : Settled (joined later) others)
    (hwhole : ∀ x ∈ joined later, ∃ o, x.2 = .whole o) :
    Settled (joined (es ++ later)) (types ++ others) ∧
      ∀ x ∈ joined (es ++ later), ∃ o, x.2 = .whole o := by
  induction types generalizing es with
  | nil =>
      obtain rfl := List.forall₂_nil_right_iff.mp h
      exact ⟨hlater, hwhole⟩
  | cons t types ih =>
      obtain ⟨⟨between, e⟩, tail, ⟨hcommas, hentry⟩, htail, rfl⟩ := List.forall₂_cons_right_iff.mp h
      obtain ⟨hsettled, hall⟩ := ih htail
      obtain _ | ⟨htext, hany⟩ | ho | _ | _ := hentry
      · -- a plain name, with no names behind it
        rename_i name first
        have hbare : joined ((between, .bare first) :: (tail ++ later)) =
            nameEntry between first :: joined (tail ++ later) := by
          refine joined_bare fun next names parts later' heq => ?_
          rw [heq] at hall
          obtain ⟨o, ho⟩ := hall _ List.mem_cons_self
          cases ho
        have hname : nameType name = .named none name := if_neg (by simpa using hany)
        have hparam := outlinesParam_name htext
        rw [hname] at hparam
        rw [List.cons_append, hbare]
        exact ⟨hsettled.one hcommas hparam, List.forall_mem_cons.mpr ⟨⟨_, rfl⟩, hall⟩⟩
      · exact ⟨hsettled.one hcommas ho, List.forall_mem_cons.mpr ⟨⟨_, rfl⟩, hall⟩⟩

/-- The entries of a list stand for the types that it is read as. -/
theorem settled_listing {l : Listing} {es : List (List Outline × Entry)}
    (h : List.Forall₂ Entered es l.pieces) : Settled (joined es) l.read := by
  cases l with
  | unnamed types variadic =>
      have hfirst := List.forall₂_take_append es _ _ h
      obtain ⟨hlast, hwhole⟩ := settled_variadic (List.forall₂_drop_append es _ _ h)
      have hall := (settled_types hfirst hlast hwhole).1
      rwa [List.take_append_drop] at hall
  | named groups variadic =>
      have hfirst := List.forall₂_take_append es _ _ h
      obtain ⟨hlast, -⟩ := settled_variadic (List.forall₂_drop_append es _ _ h)
      have hall := settled_groups hfirst hlast
      rwa [List.take_append_drop] at hall

/-- The tree of a list of parameters. -/
structure OutlinesList (o : Outline) (role : Option Role) (l : Listing) : Prop where
  kind : o.kind = .parameters
  role : o.role = role
  types : paramTypes o = l.read
  clean : Clean o

theorem Commas.clean {between : List Outline} (h : Commas between) : ∀ c ∈ between, Clean c := by
  intro c hc
  obtain ⟨t, -, rfl⟩ := h c hc
  exact clean_leaf t

theorem Commas.types {between : List Outline} (h : Commas between) :
    between.flatMap paramTypesOf = [] := by
  refine List.flatMap_eq_nil_iff.mpr fun c hc => ?_
  obtain ⟨t, -, rfl⟩ := h c hc
  exact paramTypesOf_leaf t

theorem outlinesList_ofChildren {l : Listing} {es : List (List Outline × Entry)}
    (h : List.Forall₂ Entered es l.pieces) (opening closing : Token) (role : Option Role) :
    OutlinesList (.ofChildren .parameters role (opening.leaf ::
      (joined es).flatMap (fun x => x.1 ++ [x.2.outline]) ++ [closing.leaf])) role l := by
  have hsettled := settled_listing h
  refine ⟨kind_ofChildren _ _ _, role_ofChildren _ _ _, ?_, ?_⟩
  · have hinner :
        ((joined es).flatMap fun x => x.1 ++ [x.2.outline]).flatMap paramTypesOf = l.read := by
      rw [List.flatMap_assoc, ← hsettled.types]
      refine List.flatMap_congr fun x hx => ?_
      rw [List.flatMap_append, (hsettled.commas x hx).types, List.flatMap_singleton,
        List.nil_append]
    rw [paramTypes_eq, children_ofChildren, List.flatMap_append, List.flatMap_cons, hinner,
      List.flatMap_singleton, paramTypesOf_leaf, paramTypesOf_leaf, List.nil_append,
      List.append_nil]
  · refine clean_ofChildren (by decide) (by decide) role ?_
    have hinner : ∀ c ∈ (joined es).flatMap fun x => x.1 ++ [x.2.outline], Clean c := by
      intro c hc
      obtain ⟨x, hx, hc⟩ := List.mem_flatMap.mp hc
      rcases List.mem_append.mp hc with hc | hc
      · exact (hsettled.commas x hx).clean c hc
      · obtain rfl := List.mem_singleton.mp hc
        exact hsettled.clean x hx
    intro c hc
    simp only [List.cons_append, List.mem_cons, List.mem_append, List.not_mem_nil, or_false] at hc
    rcases hc with rfl | hc | rfl
    · exact clean_leaf opening
    · exact hinner c hc
    · exact clean_leaf closing

/-- A list of parameters is read from its tokens. -/
theorem parameters_reads {l : Listing} (hreadable : l.isReadable = true) {ts : List Token}
    (h : SpellsList l.pieces ts) {fuel : Nat} (hfuel : ts.length ≤ fuel) (role : Option Role)
    (rest : List Token) :
    ∃ o, parameters (type fuel) role (ts ++ rest) = some (o, rest) ∧ OutlinesList o role l := by
  have hpieces : ∀ p ∈ l.pieces, p.isReadable = true := List.all_eq_true.mp hreadable
  suffices hentries : ∃ opening us es closing, ts ++ rest = opening :: us ∧
      opening.shape = .sign '(' ∧ entries (type fuel) (us.length + 1) [] us =
        some (es, ⟨[Token.leaf closing], rest⟩) ∧ List.Forall₂ Entered es l.pieces by
    obtain ⟨opening, us, es, closing, heq, hopening, hes, hentered⟩ := hentries
    refine ⟨_, ?_, outlinesList_ofChildren hentered opening closing role⟩
    rw [heq, parameters, if_pos hopening, hes]
    rfl
  cases hlist : l.pieces with
  | nil =>
      rw [hlist] at h
      obtain ⟨opening, closing, rfl, hopening, hclosing⟩ := h
      refine ⟨opening, closing :: rest, [], closing, rfl, hopening, ?_, .nil⟩
      have hsolid : closing.shape.isSolid = true := by
        rw [hclosing]
        rfl
      have hhead : (closing :: rest).head?.map Token.shape = some (.sign ')') :=
        congrArg some hclosing
      rw [entries, gap_solid false _ hsolid]
      dsimp only
      rw [if_pos hhead, take_solid hclosing rfl]
      rfl
  | cons p ps =>
      rw [hlist] at h hpieces
      obtain ⟨opening, first, others, rfl, hopening, hfirst, hothers⟩ := h
      have hfuel' : first.length + others.length ≤ fuel := by
        simp only [List.length_cons, List.length_append] at hfuel
        omega
      have hn : others.length ≤ (first ++ (others ++ rest)).length + 1 := by
        simp only [List.length_append]
        omega
      obtain ⟨es, closing, hes, hentered⟩ := entries_reads hpieces hfirst hothers hfuel' hn
        (List.forall_mem_nil _) rest
      refine ⟨opening, first ++ (others ++ rest), es, closing, ?_, hopening, hes, hentered⟩
      rw [List.cons_append, List.append_assoc]

theorem spellsList_head {ps : List Piece} {ts : List Token} (h : SpellsList ps ts) :
    ∃ opening rest, ts = opening :: rest ∧ opening.shape = .sign '(' := by
  cases ps with
  | nil =>
      obtain ⟨opening, closing, rfl, hopening, -⟩ := h
      exact ⟨opening, _, rfl, hopening⟩
  | cons p ps =>
      obtain ⟨opening, first, others, rfl, hopening, -⟩ := h
      exact ⟨opening, _, rfl, hopening⟩

/-- A list of parameters is taken as a child. -/
theorem node_parameters {l : Listing} (hreadable : l.isReadable = true) {ts : List Token}
    (h : SpellsList l.pieces ts) {fuel : Nat} (hfuel : ts.length ≤ fuel) (role : Option Role)
    (rest : List Token) (done : List Outline) :
    ∃ o, (⟨done, ts ++ rest⟩ : Progress).node (parameters (type fuel) role) =
      some ⟨done ++ [o], rest⟩ ∧ OutlinesList o role l := by
  obtain ⟨o, hread, ho⟩ := parameters_reads hreadable h hfuel role rest
  obtain ⟨opening, inner, rfl, hopening⟩ := spellsList_head h
  exact ⟨o, node_solid (by rw [hopening]; rfl) hread, ho⟩

end RollCall.Source.Plain
