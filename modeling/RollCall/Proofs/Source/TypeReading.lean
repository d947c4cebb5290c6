import RollCall.Proofs.Source.Children
import RollCall.Proofs.Source.Spelled
import RollCall.Proofs.Text

/-!
# RollCall.Proofs.Source.TypeReading — types are read from the tokens that spell them

The direct reader, given the tokens of a readable type with anything behind them, takes exactly
those tokens, and the type expression of the tree that it gives is the type. What stands behind
matters in one place only: a name must not be followed by a point, or it would be the name of a
package.

`Outlines o role t` gathers what the nodes around a type need to know of its tree, so that nobody
looks into the tree again.
-/

namespace RollCall.Source

/-! ## §A Trees of types -/

/-- The kinds of nodes that readable types have. -/
def Kind.isType : Kind → Bool
  | .typeName => true
  | .qualifiedType => true
  | .pointerType => true
  | .sliceType => true
  | .arrayType => true
  | .channelType => true
  | .mapType => true
  | .structType => true
  | .interfaceType => true
  | _ => false

/-- A kind of types is none of the other kinds. -/
theorem Kind.ne_of_isType {k l : Kind} (h : k.isType = true) (hl : l.isType = false) : k ≠ l := by
  rintro rfl
  exact Bool.false_ne_true (hl.symm.trans h)

theorem isPunctuation_of_isType {k : Kind} (h : k.isType = true) : isPunctuation k = false := by
  cases k with
  | other name => cases h
  | comment => cases h
  | _ => rfl

theorem isSpec_of_isType {k : Kind} (h : k.isType = true) : isSpec k = false := by
  cases k with
  | typeSpec => cases h
  | typeAlias => cases h
  | _ => rfl

/-- The elements of a declaration of a readable type: an interface has an empty list, no other type
has a list. -/
def emptyElements : GoType → Option (List Element)
  | .interface => some []
  | _ => none

/-- The elements of a declaration with the given tree as its type. -/
def elementsOf (o : Outline) : Option (List Element) :=
  if o.kind == .interfaceType then some (interfaceElements o) else none

/-- **`Outlines o role t`** — the tree is that of the type, in the given role. -/
structure Outlines (o : Outline) (role : Option Role) (t : GoType) : Prop where
  kind : o.kind.isType = true
  role : o.role = role
  type : typeOf o = t
  clean : Clean o
  elements : elementsOf o = emptyElements t

/-- Only an interface has elements. -/
theorem elementsOf_eq_none {o : Outline} (h : o.kind ≠ .interfaceType) : elementsOf o = none := by
  rw [elementsOf, if_neg (by simpa using h)]

theorem innerType_of_outlines {o : Outline} {role : Option Role} {t : GoType}
    (h : Outlines o role t) (others : List Outline) : innerType (o :: others) = some t := by
  rw [innerType, isPunctuation_of_isType h.kind, if_neg Bool.false_ne_true, h.type]

/-- The child with the role has the type that it outlines. -/
theorem typeAt_of_outlines {o : Outline} {role : Role} {t : GoType} (h : Outlines o (some role) t)
    (others : List Outline) : typeAt role (o :: others) = some t := by
  rw [typeAt, h.role, beq_self_eq_true, if_pos rfl, h.type]

theorem typeAt_of_ne {o : Outline} {role : Role} (h : o.role ≠ some role) (others : List Outline) :
    typeAt role (o :: others) = typeAt role others := by
  rw [typeAt, if_neg (by simpa using h)]

namespace Plain

open RollCall.GoType (isReadable areReadable)

/-- A token by itself is no item of a body. -/
theorem bodyItems_leaf {t : Token} (h : t.shape.isSolid = true) : bodyItems t.leaf = [] := by
  have hkind : t.leaf.kind = t.shape.kind := rfl
  rw [bodyItems, elementKind?, hkind]
  cases hshape : t.shape with
  | remark =>
      rw [hshape] at h
      cases h
  | _ => rfl

@[simp]
theorem typeAt_leaf (role : Role) (t : Token) (others : List Outline) :
    typeAt role (t.leaf :: others) = typeAt role others := by
  have hrole : t.leaf.role = none := rfl
  exact typeAt_of_ne (by rw [hrole]; exact fun h => nomatch h) others

/-- Whatever a type can start with is part of a node. -/
theorem startsType_isSolid {shape : Shape} (h : shape.startsType = true) :
    shape.isSolid = true := by
  cases shape with
  | remark => cases h
  | newline => cases h
  | _ => rfl

/-- The shape of the token that a type starts with. -/
def headShape : GoType → Shape
  | .named _ _ => .name
  | .pointer _ => .sign '*'
  | .slice _ => .sign '['
  | .array _ _ => .sign '['
  | .chan _ => .keyword .chan
  | .map _ _ => .keyword .map
  | .struct _ => .keyword .struct
  | .interface => .keyword .interface
  | .func _ => .keyword .func
  | .other _ => .name

theorem startsType_headShape (t : GoType) : (headShape t).startsType = true := by
  cases t <;> rfl

/-- The first token of a type shows which form of type it is. -/
theorem spells_headShape {t : GoType} {ts : List Token} (h : Spells t ts) :
    ∃ first rest, ts = first :: rest ∧ first.shape = headShape t := by
  cases t with
  | named package name =>
      cases package with
      | none =>
          obtain ⟨first, rfl, hshape, -⟩ := h
          exact ⟨first, _, rfl, hshape⟩
      | some package =>
          obtain ⟨first, point, last, rfl, hshape, -⟩ := h
          exact ⟨first, _, rfl, hshape⟩
  | pointer elem =>
      obtain ⟨first, rest, rfl, hshape, -⟩ := h
      exact ⟨first, _, rfl, hshape⟩
  | slice elem =>
      obtain ⟨first, closing, rest, rfl, hshape, -⟩ := h
      exact ⟨first, _, rfl, hshape⟩
  | array length elem =>
      obtain ⟨first, number, closing, rest, rfl, hshape, -⟩ := h
      exact ⟨first, _, rfl, hshape⟩
  | chan elem =>
      obtain ⟨first, rest, rfl, hshape, -⟩ := h
      exact ⟨first, _, rfl, hshape⟩
  | map key value =>
      obtain ⟨first, opening, inner, closing, rest, rfl, hshape, -⟩ := h
      exact ⟨first, _, rfl, hshape⟩
  | struct fields =>
      cases fields with
      | nil =>
          obtain ⟨first, opening, closing, rfl, hshape, -⟩ := h
          exact ⟨first, _, rfl, hshape⟩
      | cons f fields =>
          obtain ⟨first, opening, inner, rest, rfl, hshape, -⟩ := h
          exact ⟨first, _, rfl, hshape⟩
  | interface =>
      obtain ⟨first, opening, closing, rfl, hshape, -⟩ := h
      exact ⟨first, _, rfl, hshape⟩
  | func text => cases h
  | other text => cases h

/-- A type starts with a token that only types start with. -/
theorem spells_head {t : GoType} {ts : List Token} (h : Spells t ts) :
    ∃ first rest, ts = first :: rest ∧ first.shape.startsType = true := by
  obtain ⟨first, rest, hts, hshape⟩ := spells_headShape h
  exact ⟨first, rest, hts, hshape ▸ startsType_headShape t⟩

/-! ## §B Names -/

theorem cutAt?_append {p : Char → Bool} {word : List Char} (hword : ∀ c ∈ word, p c = false)
    {c : Char} (hc : p c = true) (more : List Char) :
    Text.cutAt? p (word ++ c :: more) = some (word, more) :=
  Text.cutAt?_eq_some_iff.mpr ⟨c, rfl, hc, hword⟩

/-- A text without blanks is trimmed already. -/
theorem trim_eq {text : List Char} (h : ∀ c ∈ text, Text.isBlank c = false) :
    Text.trim text = text := by
  have hdrop : ∀ cs : List Char, (∀ c ∈ cs, Text.isBlank c = false) →
      cs.dropWhile Text.isBlank = cs := by
    intro cs hcs
    cases cs with
    | nil => rfl
    | cons c cs => rw [List.dropWhile_cons, hcs c List.mem_cons_self, if_neg Bool.false_ne_true]
  rw [Text.trim, hdrop text h, Text.trimEnd,
    hdrop text.reverse fun c hc => h c (List.mem_reverse.mp hc), List.reverse_reverse]

theorem qualifiedParts?_spell {package name : String} (hpackage : isName package = true)
    (hname : isName name = true) :
    qualifiedParts? (package.toList ++ '.' :: name.toList) = some (package, name) := by
  have hpoint : ∀ c ∈ package.toList, (c == '.') = false := by
    intro c hc
    rw [beq_eq_false_iff_ne]
    exact ne_of_isNameContinue (isNameContinue_of_isName hpackage hc) (by decide)
  have hblank : ∀ {word : String}, isName word = true → Text.trim word.toList = word.toList := by
    intro word hword
    exact trim_eq fun c hc => isBlank_of_isNameContinue (isNameContinue_of_isName hword hc)
  rw [qualifiedParts?, cutAt?_append hpoint (beq_self_eq_true _)]
  simp only [Option.map_some, hblank hpackage, hblank hname, String.ofList_toList]

/-- What stands behind a name is no point. -/
def NoPoint (lines : Bool) (rest : List Token) : Prop := peek lines rest ≠ some (.sign '.')

theorem Ends.noPoint {a b : Char} {rest : List Token} (h : Ends a b rest) (ha : a ≠ '.')
    (hb : b ≠ '.') (lines : Bool) : NoPoint lines rest := by
  rw [NoPoint]
  rcases h.peek lines with hpeek | hpeek
  · rw [hpeek]
    exact fun h => ha (Shape.sign.inj (Option.some.inj h))
  · rw [hpeek]
    exact fun h => hb (Shape.sign.inj (Option.some.inj h))

theorem outlines_plainName {t : Token} {name : String} (hname : name ≠ "any")
    (htext : t.text = name.toList) (role : Option Role) :
    Outlines (t.node .typeName role) role (.named none name) := by
  refine ⟨rfl, rfl, ?_, clean_token t (by decide) (by decide) role,
    elementsOf_eq_none fun h => nomatch h⟩
  have htype : typeOf (t.node .typeName role) =
      if t.text == "any".toList then .interface else .named none (String.ofList t.text) := rfl
  have hany : (name.toList == "any".toList) = false := by
    rw [beq_eq_false_iff_ne]
    exact fun h => hname (String.toList_inj.mp h)
  rw [htype, htext, hany, if_neg Bool.false_ne_true, String.ofList_toList]

/-- Names and qualified names are read as types. -/
theorem typeName_reads {package : Option String} {name : String} {ts : List Token}
    (hreadable : isReadable (.named package name) = true) (h : Spells (.named package name) ts)
    (lines : Bool) (role : Option Role) {rest : List Token} (hrest : NoPoint lines rest) :
    ∃ o, typeName lines role (ts ++ rest) = some (o, rest) ∧
      Outlines o role (.named package name) := by
  cases package with
  | none =>
      rw [isReadable, Bool.and_eq_true, bne_iff_ne] at hreadable
      obtain ⟨t, rfl, hshape, htext⟩ := h
      refine ⟨t.node .typeName role, ?_, outlines_plainName hreadable.2 htext role⟩
      rw [List.singleton_append, typeName, if_pos hshape, if_neg hrest]
  | some package =>
      rw [isReadable, Bool.and_eq_true] at hreadable
      obtain ⟨first, point, last, rfl, hfirst, hpoint, hlast, htext⟩ := h
      refine ⟨.ofChildren .qualifiedType role [first.node .packageName none, point.leaf,
        last.node .typeName none], ?_, by simp [Kind.isType], by simp, ?_, ?_, ?_⟩
      · have hpeek : peek lines (point :: last :: rest) = some (.sign '.') :=
          peek_shape lines _ hpoint rfl
        rw [List.cons_append, typeName, if_pos hfirst, List.cons_append, List.singleton_append,
          if_pos hpeek]
        dsimp only
        rw [take_solid hpoint rfl, Option.bind_eq_bind, Option.bind_some, takeAs_solid hlast rfl]
        rfl
      · have hout : Outline.ofChildren .qualifiedType role [first.node .packageName none, point.leaf,
            last.node .typeName none] = .node .qualifiedType role false first.start last.stop
            [first.node .packageName none, point.leaf, last.node .typeName none] := rfl
        rw [hout, typeOf]
        simp only [htext, qualifiedParts?_spell hreadable.1 hreadable.2]
      · refine clean_ofChildren (by decide) (by decide) role ?_
        intro c hc
        simp only [List.mem_cons, List.not_mem_nil, or_false] at hc
        rcases hc with rfl | rfl | rfl
        · exact clean_token first (by decide) (by decide) none
        · exact clean_leaf point
        · exact clean_token last (by decide) (by decide) none
      · exact elementsOf_eq_none (by simp)

/-! ## §C Types made of types -/

theorem outlines_ofChildren {kind : Kind} {role : Option Role} {children : List Outline}
    {t : GoType} (hkind : kind.isType = true) (hplain : kind ≠ .interfaceType)
    (hnone : emptyElements t = none)
    (htype : typeOf (.ofChildren kind role children) = t) (hclean : ∀ c ∈ children, Clean c) :
    Outlines (.ofChildren kind role children) role t := by
  refine ⟨by simpa using hkind, role_ofChildren _ _ _, htype, ?_, ?_⟩
  · exact clean_ofChildren (Kind.ne_of_isType hkind rfl) (isSpec_of_isType hkind) role hclean
  · rw [hnone, elementsOf_eq_none (by simpa using hplain)]

/-- The tokens of the type are read as its tree, whatever stands behind them. -/
def Reads (t : GoType) : Prop :=
  ∀ {ts : List Token}, isReadable t = true → Spells t ts → ∀ {fuel : Nat}, ts.length ≤ fuel →
    ∀ (lines : Bool) (role : Option Role) {rest : List Token}, NoPoint lines rest →
      ∃ o, type fuel lines role (ts ++ rest) = some (o, rest) ∧ Outlines o role t

/-- A type becomes the next child. -/
theorem Reads.node {t : GoType} (h : Reads t) {ts : List Token} (hreadable : isReadable t = true)
    (hspells : Spells t ts) {fuel : Nat} (hfuel : ts.length ≤ fuel) (lines : Bool)
    (role : Option Role) {rest : List Token} (hrest : NoPoint lines rest) (done : List Outline) :
    ∃ o, (⟨done, ts ++ rest⟩ : Progress).node (type fuel lines role) = some ⟨done ++ [o], rest⟩ ∧
      Outlines o role t := by
  obtain ⟨o, hread, ho⟩ := h hreadable hspells hfuel lines role hrest
  obtain ⟨first, inner, rfl, hfirst⟩ := spells_head hspells
  exact ⟨o, node_solid (startsType_isSolid hfirst) hread, ho⟩

/-- A name needs nothing but the name itself; this is where the recursion over types ends. -/
theorem reads_named (package : Option String) (name : String) : Reads (.named package name) := by
  intro ts hreadable hspells fuel hfuel lines role rest hrest
  obtain ⟨first, inner, rfl, hfirst⟩ := spells_headShape hspells
  cases fuel with
  | zero => exact absurd hfuel (Nat.not_succ_le_zero _)
  | succ fuel =>
      obtain ⟨o, hread, ho⟩ := typeName_reads hreadable hspells lines role hrest
      refine ⟨o, ?_, ho⟩
      rw [List.cons_append, type, hfirst]
      exact hread

theorem reads_pointer {elem : GoType} (ih : Reads elem) : Reads (.pointer elem) := by
  intro ts hreadable hspells fuel hfuel lines role rest hrest
  obtain ⟨star, inner, rfl, hstar, helem⟩ := hspells
  cases fuel with
  | zero => exact absurd hfuel (Nat.not_succ_le_zero _)
  | succ fuel =>
      obtain ⟨o, hnode, ho⟩ :=
        ih.node hreadable helem (Nat.le_of_succ_le_succ hfuel) lines none hrest [star.leaf]
      refine ⟨.ofChildren .pointerType role [star.leaf, o], ?_,
        outlines_ofChildren rfl (by decide) rfl ?_ (by simp [ho.clean])⟩
      · rw [List.cons_append, type, hstar]
        simp only
        rw [hnode]
        rfl
      · have hinner : innerType [star.leaf, o] = some elem := by
          rw [innerType, if_pos (by rw [leaf_eq hstar]; rfl), innerType_of_outlines ho]
        obtain ⟨a, b, hout⟩ := ofChildren_eq .pointerType role [star.leaf, o]
        rw [hout, typeOf, hinner]
        rfl

theorem reads_slice {elem : GoType} (ih : Reads elem) : Reads (.slice elem) := by
  intro ts hreadable hspells fuel hfuel lines role rest hrest
  obtain ⟨opening, closing, inner, rfl, hopening, hclosing, helem⟩ := hspells
  cases fuel with
  | zero => exact absurd hfuel (Nat.not_succ_le_zero _)
  | succ fuel =>
      have hinner : inner.length ≤ fuel := by
        simp only [List.length_cons] at hfuel
        omega
      obtain ⟨o, hnode, ho⟩ := ih.node hreadable helem hinner lines (some .element) hrest
        ([opening.leaf] ++ [closing.leaf])
      refine ⟨.ofChildren .sliceType role [opening.leaf, closing.leaf, o], ?_,
        outlines_ofChildren rfl (by decide) rfl ?_ (by simp [ho.clean])⟩
      · -- without a number behind the bracket it is no array
        have hpeek : peek false (closing :: (inner ++ rest)) ≠ some .number := by
          rw [peek_shape false _ hclosing rfl]
          decide
        rw [List.cons_append, List.cons_append, type, hopening]
        simp only
        rw [if_neg hpeek, take_solid hclosing rfl, Option.bind_eq_bind, Option.bind_some, hnode]
        rfl
      · obtain ⟨a, b, hout⟩ := ofChildren_eq .sliceType role [opening.leaf, closing.leaf, o]
        rw [hout, typeOf, typeAt_leaf, typeAt_leaf, typeAt_of_outlines ho]
        rfl

theorem wholeNumber?_toDigits {n : Nat} (h : n < Nat.pow 2 64) :
    Text.wholeNumber? (Nat.toDigits 10 n) = some n := by
  have hdigits : ∀ c ∈ Nat.toDigits 10 n, c.isDigit = true :=
    fun c hc => Nat.isDigit_of_mem_toDigits (by decide) (by decide) hc
  have hvalue : Text.decimalValue (Nat.toDigits 10 n) = n := by
    have hread := @Nat.ofDigitChars_ten_toDigits n
    rw [Nat.ofDigitChars_eq_foldl] at hread
    simpa only [Text.decimalValue, Nat.mul_comm] using hread
  have hsome : (Nat.toDigits 10 n).isEmpty = false := by
    rw [List.isEmpty_eq_false_iff]
    exact Nat.toDigits_ne_nil
  unfold Text.wholeNumber?
  split
  · rename_i rest hplus
    cases hdigits '+' (hplus ▸ List.mem_cons_self)
  · dsimp only
    rw [hsome, List.all_eq_true.mpr hdigits, hvalue, if_pos h]
    rfl

theorem reads_array {length : Option Nat} {elem : GoType} (ih : Reads elem) :
    Reads (.array length elem) := by
  intro ts hreadable hspells fuel hfuel lines role rest hrest
  obtain ⟨opening, number, closing, inner, rfl, hopening, hnumber, htext, hclosing, helem⟩ :=
    hspells
  obtain ⟨n, rfl, hdigits⟩ := Option.map_eq_some_iff.mp htext
  rw [isReadable, Bool.and_eq_true, decide_eq_true_eq] at hreadable
  cases fuel with
  | zero => exact absurd hfuel (Nat.not_succ_le_zero _)
  | succ fuel =>
      have hinner : inner.length ≤ fuel := by
        simp only [List.length_cons] at hfuel
        omega
      let written := number.node Shape.number.kind (some .length)
      obtain ⟨o, hnode, ho⟩ := ih.node hreadable.2 helem hinner lines (some .element) hrest
        ([opening.leaf] ++ [written] ++ [closing.leaf])
      have hclean : Clean written := clean_token number (by decide) (by decide) _
      refine ⟨.ofChildren .arrayType role [opening.leaf, written, closing.leaf, o], ?_,
        outlines_ofChildren rfl (by decide) rfl ?_ (by simp [ho.clean, hclean])⟩
      · have hpeek : peek false (number :: closing :: (inner ++ rest)) = some .number :=
          peek_shape false _ hnumber rfl
        rw [List.cons_append, List.cons_append, List.cons_append, type, hopening]
        simp only
        rw [if_pos hpeek, takeAs_solid hnumber rfl, Option.bind_eq_bind, Option.bind_some,
          take_solid hclosing rfl, Option.bind_some, hnode]
        rfl
      · have hlength : Text.wholeNumber? (Text.trim written.text) = some n := by
          have htrim : Text.trim (Nat.toDigits 10 n) = Nat.toDigits 10 n := by
            refine trim_eq fun c hc => isBlank_of_isNameContinue (of_isDigit ?_).2.1
            exact Nat.isDigit_of_mem_toDigits (by decide) (by decide) hc
          have hwritten : written.text = Nat.toDigits 10 n := hdigits.symm
          rw [hwritten, htrim, wholeNumber?_toDigits hreadable.1]
        obtain ⟨a, b, hout⟩ :=
          ofChildren_eq .arrayType role [opening.leaf, written, closing.leaf, o]
        have hfind : [opening.leaf, written, closing.leaf, o].find?
            (fun c => c.role == some .length) = some written := rfl
        have hnot : written.role ≠ some .element := by
          intro h
          cases h
        rw [hout, typeOf, typeAt_leaf, typeAt_of_ne hnot, typeAt_leaf, typeAt_of_outlines ho, hfind,
          Option.bind_some, hlength]
        rfl

theorem reads_chan {elem : GoType} (ih : Reads elem) : Reads (.chan elem) := by
  intro ts hreadable hspells fuel hfuel lines role rest hrest
  obtain ⟨word, inner, rfl, hword, helem⟩ := hspells
  cases fuel with
  | zero => exact absurd hfuel (Nat.not_succ_le_zero _)
  | succ fuel =>
      obtain ⟨o, hnode, ho⟩ := ih.node hreadable helem (Nat.le_of_succ_le_succ hfuel) lines
        (some .value) hrest [word.leaf]
      refine ⟨.ofChildren .channelType role [word.leaf, o], ?_,
        outlines_ofChildren rfl (by decide) rfl ?_ (by simp [ho.clean])⟩
      · rw [List.cons_append, type, hword]
        simp only
        rw [hnode]
        rfl
      · obtain ⟨a, b, hout⟩ := ofChildren_eq .channelType role [word.leaf, o]
        rw [hout, typeOf, typeAt_leaf, typeAt_of_outlines ho]
        rfl

theorem reads_map {key value : GoType} (ihkey : Reads key) (ihvalue : Reads value) :
    Reads (.map key value) := by
  intro ts hreadable hspells fuel hfuel lines role rest hrest
  obtain ⟨word, opening, inner, closing, outer, rfl, hword, hopening, hkey, hclosing, hvalue⟩ :=
    hspells
  rw [isReadable, Bool.and_eq_true] at hreadable
  cases fuel with
  | zero => exact absurd hfuel (Nat.not_succ_le_zero _)
  | succ fuel =>
      simp only [List.length_cons, List.length_append] at hfuel
      have hinner : inner.length ≤ fuel := by omega
      have houter : outer.length ≤ fuel := by omega
      -- the key is followed by its bracket, the value by whatever follows the map
      have hbehind : NoPoint false (closing :: (outer ++ rest)) := by
        rw [NoPoint, peek_shape false _ hclosing rfl]
        decide
      obtain ⟨k, hknode, hk⟩ := ihkey.node hreadable.1 hkey hinner false (some .key) hbehind
        ([word.leaf] ++ [opening.leaf])
      obtain ⟨v, hvnode, hv⟩ := ihvalue.node hreadable.2 hvalue houter lines (some .value) hrest
        ([word.leaf] ++ [opening.leaf] ++ [k] ++ [closing.leaf])
      refine ⟨.ofChildren .mapType role [word.leaf, opening.leaf, k, closing.leaf, v], ?_,
        outlines_ofChildren rfl (by decide) rfl ?_ (by simp [hk.clean, hv.clean])⟩
      · rw [List.cons_append, List.cons_append, List.append_assoc, List.cons_append, type, hword]
        simp only
        rw [take_solid hopening rfl, Option.bind_eq_bind, Option.bind_some, hknode,
          Option.bind_some, take_solid hclosing rfl, Option.bind_some, hvnode]
        rfl
      · have hnot : k.role ≠ some .value := by
          rw [hk.role]
          decide
        obtain ⟨a, b, hout⟩ :=
          ofChildren_eq .mapType role [word.leaf, opening.leaf, k, closing.leaf, v]
        rw [hout, typeOf, typeAt_leaf, typeAt_leaf, typeAt_of_outlines hk, typeAt_leaf, typeAt_leaf,
          typeAt_of_ne hnot, typeAt_leaf, typeAt_of_outlines hv]

theorem reads_interface : Reads .interface := by
  intro ts _ hspells fuel hfuel lines role rest hrest
  obtain ⟨word, opening, closing, rfl, hword, hopening, hclosing⟩ := hspells
  cases fuel with
  | zero => exact absurd hfuel (Nat.not_succ_le_zero _)
  | succ fuel =>
      refine ⟨.ofChildren .interfaceType role [word.leaf, opening.leaf, closing.leaf], ?_,
        by simp [Kind.isType], by simp, ?_, ?_, ?_⟩
      · have hpeek : peek false (closing :: rest) = some (.sign '}') :=
          peek_shape false _ hclosing rfl
        rw [List.cons_append, type, hword]
        simp only
        rw [List.cons_append, List.singleton_append, take_solid hopening rfl, Option.bind_eq_bind,
          Option.bind_some, Progress.allItems, Progress.items, if_pos hpeek,
          take_solid hclosing rfl]
        rfl
      · obtain ⟨a, b, hout⟩ :=
          ofChildren_eq .interfaceType role [word.leaf, opening.leaf, closing.leaf]
        rw [hout, typeOf]
      · exact clean_ofChildren (by decide) (by decide) role (by simp)
      · have helements : elementsOf (.ofChildren .interfaceType role
            [word.leaf, opening.leaf, closing.leaf]) = some (attachComments (bodyItems word.leaf ++
              (bodyItems opening.leaf ++ (bodyItems closing.leaf ++ [])))) := by
          rw [elementsOf, kind_ofChildren, beq_self_eq_true, if_pos rfl, interfaceElements,
            children_ofChildren]
          rfl
        rw [helements, bodyItems_leaf (by rw [hword]; rfl), bodyItems_leaf (by rw [hopening]; rfl),
          bodyItems_leaf (by rw [hclosing]; rfl)]
        rfl

/-! ## §D Fields -/

theorem fieldsOf_cons (o : Outline) (others : List Outline) :
    fieldsOf (o :: others) = fieldsOf [o] ++ fieldsOf others := by
  obtain ⟨kind, role, missing, start, stop, children⟩ := o
  rw [fieldsOf, fieldsOf, fieldsOf, List.append_nil]

theorem fieldsOf_leaf (t : Token) : fieldsOf [t.leaf] = [] := by
  have hkind : (t.shape.kind == .field) = false := by cases t.shape <;> rfl
  rw [Token.leaf, Token.node, fieldsOf, hkind]
  rfl

/-- The tree is that of the field. -/
structure OutlinesField (o : Outline) (f : Field GoType) : Prop where
  fields : fieldsOf [o] = [f]
  clean : Clean o

theorem outlinesField_ofChildren {parts : List Outline} {t : GoType} {f : Field GoType}
    (htype : typeAt .type parts = some t) (hfields : declaredFields parts t = [f])
    (hclean : ∀ c ∈ parts, Clean c) : OutlinesField (.ofChildren .field none parts) f := by
  refine ⟨?_, clean_ofChildren (by decide) (by decide) none hclean⟩
  obtain ⟨a, b, hnode⟩ := ofChildren_eq .field none parts
  rw [hnode, fieldsOf, htype, Option.map_some, Option.getD_some, hfields]
  rfl

/-- Where there is no field name one embedded field is declared, a pointer behind a star. -/
theorem declaredFields_embedded {parts : List Outline} (h : ∀ c ∈ parts, c.kind ≠ .fieldName)
    (t : GoType) :
    declaredFields parts t = [⟨embeddedName t,
      if parts.any fun c => c.kind == .other "*" then .pointer t else t, true⟩] := by
  have hnames : parts.filter (fun c => c.kind == .fieldName) = [] := by
    simpa [List.filter_eq_nil_iff] using h
  rw [declaredFields, hnames]

/-- The type of a field that is embedded under a name: a type name, perhaps behind a star. -/
theorem isEmbeddedAs_cases {name : String} {t : GoType} (h : GoType.isEmbeddedAs name t = true) :
    (∃ package, t = .named package name) ∨ ∃ package, t = .pointer (.named package name) := by
  unfold GoType.isEmbeddedAs at h
  split at h
  · obtain rfl := eq_of_beq h
    exact .inl ⟨_, rfl⟩
  · obtain rfl := eq_of_beq h
    exact .inr ⟨_, rfl⟩
  · cases h

/-- A name with nothing but a point, a semicolon or a brace behind it is an embedded field. -/
theorem field_embedded (type : TypeReader) {t : Token} {ts : List Token} (ht : t.shape = .name)
    {shape : Shape} (hpeek : peek true ts = some shape)
    (hshape : shape = .sign '.' ∨ shape = .sign ';' ∨ shape = .sign '}') :
    field type (t :: ts) = ((⟨[], t :: ts⟩ : Progress).node (typeName true (some .type))).map
      (Progress.close · .field none) := by
  rw [field, ht]
  simp only
  rw [hpeek]
  rcases hshape with rfl | rfl | rfl <;> rfl

/-- An embedded field is read as such. -/
theorem field_embeddedName {package : Option String} {name : String}
    (hreadable : isReadable (.named package name) = true) {ts rest : List Token}
    (h : Spells (.named package name) ts) (hrest : Ends ';' '}' rest) (type : TypeReader) :
    ∃ o, field type (ts ++ rest) = some (o, rest) ∧
      OutlinesField o ⟨name, .named package name, true⟩ := by
  obtain ⟨o, hread, ho⟩ :=
    typeName_reads hreadable h true (some .type) (hrest.noPoint (by decide) (by decide) true)
  have hfield : ∃ t more shape, ts ++ rest = t :: more ∧ t.shape = .name ∧
      peek true more = some shape ∧
      (shape = .sign '.' ∨ shape = .sign ';' ∨ shape = .sign '}') := by
    cases package with
    | none =>
        obtain ⟨t, rfl, hshape, -⟩ := h
        rcases hrest.peek true with hpeek | hpeek
        · exact ⟨t, rest, _, rfl, hshape, hpeek, .inr (.inl rfl)⟩
        · exact ⟨t, rest, _, rfl, hshape, hpeek, .inr (.inr rfl)⟩
    | some package =>
        obtain ⟨t, point, last, rfl, hshape, hpoint, -⟩ := h
        refine ⟨t, point :: last :: rest, _, rfl, hshape, ?_, .inl rfl⟩
        rw [peek_shape true _ hpoint rfl]
  obtain ⟨t, more, shape, heq, hname, hpeek, hshape⟩ := hfield
  refine ⟨.ofChildren .field none [o], ?_,
    outlinesField_ofChildren (typeAt_of_outlines ho []) ?_ ?_⟩
  · rw [heq] at hread ⊢
    rw [field_embedded type hname hpeek hshape, node_solid (by rw [hname]; rfl) hread]
    rfl
  · have hstar : ([o].any fun c => c.kind == .other "*") = false := by
      simpa using Kind.ne_of_isType ho.kind rfl
    rw [declaredFields_embedded (by simpa using Kind.ne_of_isType ho.kind rfl), hstar]
    rfl
  · simp [ho.clean]

/-- So is an embedded pointer. -/
theorem field_embeddedPointer {package : Option String} {name : String}
    (hreadable : isReadable (.named package name) = true) {ts rest : List Token}
    (h : Spells (.pointer (.named package name)) ts) (hrest : Ends ';' '}' rest)
    (type : TypeReader) :
    ∃ o, field type (ts ++ rest) = some (o, rest) ∧
      OutlinesField o ⟨name, .pointer (.named package name), true⟩ := by
  obtain ⟨star, inner, rfl, hstar, hinner⟩ := h
  obtain ⟨o, hread, ho⟩ :=
    typeName_reads hreadable hinner true (some .type) (hrest.noPoint (by decide) (by decide) true)
  obtain ⟨first, more, rfl, hfirst⟩ := spells_head hinner
  have hkind : star.leaf.kind = .other "*" := by
    rw [leaf_eq hstar]
    rfl
  have htype : typeAt .type [star.leaf, o] = some (.named package name) := by
    rw [typeAt_leaf, typeAt_of_outlines ho]
  refine ⟨.ofChildren .field none [star.leaf, o], ?_,
    outlinesField_ofChildren htype ?_ (by simp [ho.clean])⟩
  · rw [List.cons_append, field, hstar]
    simp only
    exact congrArg (Option.map _) (node_solid (startsType_isSolid hfirst) hread)
  · have hnames : ∀ c ∈ [star.leaf, o], c.kind ≠ .fieldName := by
      simpa [hkind] using Kind.ne_of_isType ho.kind rfl
    have hany : ([star.leaf, o].any fun c => c.kind == .other "*") = true := by
      rw [List.any_cons, hkind, beq_self_eq_true, Bool.true_or]
    rw [declaredFields_embedded hnames, hany]
    rfl

/-- A name with a type behind it is read as the field of that name and type. -/
theorem field_named {name : String} {t : GoType} (ih : Reads t) (hreadable : isReadable t = true)
    {first : Token} {inner rest : List Token} (hfirst : first.shape = .name)
    (htext : first.text = name.toList) (h : Spells t inner) (hrest : Ends ';' '}' rest) {fuel : Nat}
    (hfuel : inner.length ≤ fuel) :
    ∃ o, field (type fuel) (first :: (inner ++ rest)) = some (o, rest) ∧
      OutlinesField o ⟨name, t, false⟩ := by
  let written := first.node .fieldName none
  obtain ⟨o, hnode, ho⟩ := ih.node hreadable h hfuel true (some .type)
    (hrest.noPoint (by decide) (by decide) true) [written]
  have hnot : o.kind ≠ .fieldName := Kind.ne_of_isType ho.kind rfl
  have hclean : Clean written := clean_token first (by decide) (by decide) none
  have htype : typeAt .type [written, o] = some t := by
    have hrole : written.role ≠ some .type := fun h => nomatch h
    rw [typeAt_of_ne hrole, typeAt_of_outlines ho]
  refine ⟨.ofChildren .field none [written, o], ?_,
    outlinesField_ofChildren htype ?_ (by simp [hclean, ho.clean])⟩
  · obtain ⟨head, more, rfl, hhead⟩ := spells_head h
    have hpeek : peek true (head :: more ++ rest) = some head.shape :=
      peek_solid true (more ++ rest) (startsType_isSolid hhead)
    rw [field, hfirst]
    simp only
    rw [hpeek]
    -- a type starts neither with a comma nor with the end of the text
    split
    · rename_i hcomma
      rw [Option.some.inj hcomma] at hhead
      cases hhead
    · rename_i shape _ heq
      obtain rfl := Option.some.inj heq
      rw [hhead, Bool.true_or, if_pos rfl, hnode]
      rfl
    · rename_i heq
      cases heq
  · have hfilter : ([written, o].filter fun c => c.kind == .fieldName) = [written] := by
      have hwritten : written.kind = .fieldName := rfl
      simp [hwritten, hnot]
    have hstring : written.string = name := by
      have hwritten : written.string = String.ofList first.text := rfl
      rw [hwritten, htext, String.ofList_toList]
    rw [declaredFields, hfilter]
    simp [hstring]

/-- A field is read from its tokens. -/
theorem field_reads {f : Field GoType} (ih : Reads f.type)
    (hname : (if f.embedded then GoType.isEmbeddedAs f.name f.type else isName f.name) = true)
    (htype : isReadable f.type = true) {ts rest : List Token} (h : SpellsField f ts)
    (hrest : Ends ';' '}' rest) {fuel : Nat} (hfuel : ts.length ≤ fuel) :
    ∃ o, field (type fuel) (ts ++ rest) = some (o, rest) ∧ OutlinesField o f := by
  obtain ⟨name, t, embedded⟩ := f
  cases embedded with
  | true =>
      have hname : GoType.isEmbeddedAs name t = true := hname
      rcases isEmbeddedAs_cases hname with ⟨package, rfl⟩ | ⟨package, rfl⟩
      · exact field_embeddedName htype h hrest (type fuel)
      · exact field_embeddedPointer htype h hrest (type fuel)
  | false =>
      obtain ⟨first, inner, rfl, hfirst, htext, hinner⟩ := h
      exact field_named ih htype hfirst htext hinner hrest (Nat.le_of_succ_le hfuel)

theorem spellsField_head {f : Field GoType} {ts : List Token} (h : SpellsField f ts) :
    ∃ first rest, ts = first :: rest ∧ first.shape.startsType = true := by
  obtain ⟨name, t, embedded⟩ := f
  cases embedded with
  | true => exact spells_head h
  | false =>
      obtain ⟨first, inner, rfl, hfirst, -⟩ := h
      exact ⟨first, inner, rfl, by rw [hfirst]; rfl⟩

/-- One field of a struct is read, with the token that ends it. -/
theorem items_field {f : Field GoType} (ih : Reads f.type)
    (hname : (if f.embedded then GoType.isEmbeddedAs f.name f.type else isName f.name) = true)
    (htype : isReadable f.type = true) {ts : List Token} (h : SpellsField f ts) {sep : Token}
    (hsep : sep.shape = .sign ';' ∨ sep.shape = .sign '}') {fuel : Nat} (hfuel : ts.length ≤ fuel)
    (n : Nat) (done : List Outline) (rest : List Token) :
    ∃ o, OutlinesField o f ∧
      Progress.items (field (type fuel)) '}' (n + 1) ⟨done, ts ++ sep :: rest⟩ =
        if sep.shape = .newline ∨ sep.shape = .sign ';' then
          Progress.items (field (type fuel)) '}' n ⟨done ++ [o] ++ [sep.leaf], rest⟩
        else (⟨done ++ [o], sep :: rest⟩ : Progress).take (.sign '}') := by
  obtain ⟨o, hread, ho⟩ := field_reads ih hname htype h ⟨sep, rest, rfl, hsep⟩ hfuel
  obtain ⟨head, more, rfl, hhead⟩ := spellsField_head h
  refine ⟨o, ho, items_item n (gap_solid false _ (startsType_isSolid hhead)) ?_ hread ?_⟩
  · intro hclosing
    rw [hclosing] at hhead
    cases hhead
  · rcases hsep with hsep | hsep
    all_goals
      rw [hsep]
      decide

/-- All fields of a struct are read, one after the other, up to its closing brace. -/
theorem items_fields {f : Field GoType} {fields : List (Field GoType)}
    (ih : ∀ g ∈ f :: fields, Reads g.type) (hreadable : areReadable (f :: fields) = true)
    {first others : List Token} (hfirst : SpellsField f first)
    (hothers : SpellsFields fields others) {fuel n : Nat}
    (hfuel : first.length + others.length ≤ fuel) (hn : others.length ≤ n)
    (done : List Outline) (rest : List Token) :
    ∃ parts, Progress.items (field (type fuel)) '}' n ⟨done, first ++ (others ++ rest)⟩ =
        some ⟨done ++ parts, rest⟩ ∧ fieldsOf parts = f :: fields ∧ ∀ c ∈ parts, Clean c := by
  induction fields generalizing f first others n done with
  | nil =>
      obtain ⟨⟨hname, htype⟩, -⟩ := (GoType.areReadable_cons f []).mp hreadable
      obtain ⟨closing, rfl, hclosing⟩ := hothers
      obtain ⟨n, rfl⟩ := Nat.exists_eq_add_of_le' hn
      obtain ⟨o, ho, hitem⟩ := items_field (ih f List.mem_cons_self) hname htype hfirst
        (.inr hclosing) (Nat.le_of_add_right_le hfuel) n done rest
      refine ⟨[o, closing.leaf], ?_, ?_, by simp [ho.clean]⟩
      · rw [List.singleton_append, List.length_singleton, hitem, if_neg (by rw [hclosing]; decide),
          take_solid hclosing rfl, List.append_assoc]
        rfl
      · rw [fieldsOf_cons, ho.fields, fieldsOf_leaf]
        rfl
  | cons g fields ihfields =>
      obtain ⟨⟨hname, htype⟩, hreadable⟩ := (GoType.areReadable_cons f (g :: fields)).mp hreadable
      obtain ⟨sep, second, others, rfl, hsep, hsecond, hothers⟩ := hothers
      simp only [List.length_cons, List.length_append] at hfuel hn
      obtain ⟨n, rfl⟩ := Nat.exists_eq_add_of_le' (Nat.le_of_add_left_le hn)
      obtain ⟨o, ho, hitem⟩ := items_field (ih f List.mem_cons_self) hname htype hfirst
        (.inl hsep) (Nat.le_of_add_right_le hfuel) n done (second ++ (others ++ rest))
      have hfuel' : second.length + others.length ≤ fuel := by omega
      have hn' : others.length ≤ n := by omega
      obtain ⟨parts, hparts, hfields, hclean⟩ :=
        ihfields (fun h hh => ih h (List.mem_cons_of_mem _ hh)) hreadable hsecond hothers hfuel' hn'
          (done ++ [o] ++ [sep.leaf])
      refine ⟨o :: sep.leaf :: parts, ?_, ?_, ?_⟩
      · rw [List.cons_append, List.append_assoc, hitem, if_pos (.inr hsep), hparts,
          List.append_assoc, List.append_assoc]
        rfl
      · rw [fieldsOf_cons, ho.fields, fieldsOf_cons, fieldsOf_leaf, hfields]
        rfl
      · simpa [ho.clean] using hclean

/-- The fields of a struct are those of its body. -/
theorem structFields_fields (word : Token) (parts : List Outline) :
    structFields [word.leaf, .ofChildren .fields none parts] = fieldsOf parts := by
  have hword : (word.shape.kind == .fields) = false := by cases word.shape <;> rfl
  obtain ⟨a, b, hnode⟩ := ofChildren_eq .fields none parts
  rw [hnode, Token.leaf, Token.node, structFields, hword, if_neg Bool.false_ne_true, structFields,
    beq_self_eq_true, if_pos rfl]

/-- A struct is read where its fields are. -/
theorem struct_of_fields {word opening : Token} (hword : word.shape = .keyword .struct)
    (hopening : opening.shape = .sign '{') {us rest : List Token} {fuel : Nat}
    {parts : List Outline} {fields : List (Field GoType)}
    (hparts : Progress.items (field (type fuel)) '}' (us.length + 1) ⟨[opening.leaf], us⟩ =
      some ⟨[opening.leaf] ++ parts, rest⟩)
    (hfields : fieldsOf parts = fields) (hclean : ∀ c ∈ parts, Clean c) (lines : Bool)
    (role : Option Role) :
    ∃ o, type (fuel + 1) lines role (word :: opening :: us) = some (o, rest) ∧
      Outlines o role (.struct fields) := by
  let body := Outline.ofChildren .fields none (opening.leaf :: parts)
  have hbody : Clean body := clean_ofChildren (by decide) (by decide) none (by simpa using hclean)
  refine ⟨.ofChildren .structType role [word.leaf, body], ?_,
    outlines_ofChildren rfl (by decide) rfl ?_ (by simp [hbody])⟩
  · have hread : Plain.fields (type fuel) (opening :: us) = some (body, rest) := by
      rw [Plain.fields, if_pos hopening, Progress.allItems, hparts]
      rfl
    rw [type, hword]
    simp only
    rw [node_solid (by rw [hopening]; rfl) hread]
    rfl
  · obtain ⟨a, b, hnode⟩ := ofChildren_eq .structType role [word.leaf, body]
    rw [hnode, typeOf, structFields_fields, fieldsOf_cons, fieldsOf_leaf, hfields, List.nil_append]

theorem reads_struct {fields : List (Field GoType)} (ih : ∀ f ∈ fields, Reads f.type) :
    Reads (.struct fields) := by
  intro ts hreadable hspells fuel hfuel lines role rest hrest
  rw [isReadable] at hreadable
  cases fields with
  | nil =>
      obtain ⟨word, opening, closing, rfl, hword, hopening, hclosing⟩ := hspells
      obtain ⟨fuel, rfl⟩ := Nat.exists_eq_add_of_le' (Nat.le_of_add_left_le hfuel)
      have hitems : Progress.items (field (type fuel)) '}' (rest.length + 1 + 1)
          ⟨[opening.leaf], closing :: rest⟩ = some ⟨[opening.leaf] ++ [closing.leaf], rest⟩ :=
        items_end _ (gap_solid false rest (by rw [hclosing]; rfl)) hclosing
      exact struct_of_fields hword hopening hitems (fieldsOf_leaf closing) (by simp) lines role
  | cons f fields =>
      obtain ⟨word, opening, first, others, rfl, hword, hopening, hfirst, hothers⟩ := hspells
      obtain ⟨fuel, rfl⟩ := Nat.exists_eq_add_of_le' (Nat.le_of_add_left_le hfuel)
      simp only [List.length_cons, List.length_append] at hfuel
      have hfuel' : first.length + others.length ≤ fuel := by omega
      have hn : others.length ≤ (first ++ (others ++ rest)).length + 1 := by
        simp only [List.length_append]
        omega
      obtain ⟨parts, hparts, hfields, hclean⟩ :=
        items_fields ih hreadable hfirst hothers hfuel' hn [opening.leaf] rest
      rw [List.cons_append, List.cons_append, List.append_assoc]
      exact struct_of_fields hword hopening hparts hfields hclean lines role

/-- Every readable type is read from the tokens that spell it. -/
theorem reads (t : GoType) : Reads t := by
  induction t using GoType.induction with
  | named package name => exact reads_named package name
  | pointer elem ih => exact reads_pointer ih
  | slice elem ih => exact reads_slice ih
  | array length elem ih => exact reads_array ih
  | chan elem ih => exact reads_chan ih
  | map key value ihkey ihvalue => exact reads_map ihkey ihvalue
  | struct fields ih => exact reads_struct ih
  | interface => exact reads_interface
  | func text => exact fun hreadable => nomatch hreadable
  | other text => exact fun hreadable => nomatch hreadable

end Plain

end RollCall.Source
