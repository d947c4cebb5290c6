import Mathlib.Data.List.Forall2
import RollCall.Source.File

/-!
# RollCall.Proofs.Source.Remarked — types do not depend on comments

`Remarked P a b` says that one tree is another with comments put in, wherever they may stand. What
is read from a tree goes by the kinds and roles of nodes, and no comment has the kind or the role of
anything that is looked for, so types, fields, parameters and elements are the same for both trees.

There is one exception. Where a type is known by its source text, a comment inside that text becomes
a part of it. `isClear k` says that the place `k` is inside of no such text, and with this condition
the types that are declared, and the elements of interfaces up to the text of signatures, agree. Only
what is read counts: inside of an interface that is a part of some type, and inside of the parameters
of a declared type, every place is clear.
-/

namespace RollCall.Source

open RollCall.Text (Spot)

/-- Induction on an outline, with all children of a node. -/
@[elab_as_elim]
theorem Outline.induction {Q : Outline → Prop}
    (node : ∀ kind role missing start stop children, (∀ c ∈ children, Q c) →
      Q (.node kind role missing start stop children)) (o : Outline) : Q o :=
  @Outline.rec Q (fun children => ∀ c ∈ children, Q c) node
    (fun _ h => absurd h List.not_mem_nil)
    (fun _ _ hfirst hrest c hc => by
      rcases List.mem_cons.mp hc with rfl | hc
      · exact hfirst
      · exact hrest c hc) o

/-! ## §A Trees with comments put in -/

/-- A node that is a comment. -/
structure IsRemark (o : Outline) : Prop where
  kind : o.kind = .comment
  role : o.role = none
  children : o.children = []

/-- **`Threaded R as bs`** — the second list is the first with comments put in, and the nodes other
than these are related one by one. -/
inductive Threaded (R : Outline → Outline → Prop) : List Outline → List Outline → Prop
  | nil : Threaded R [] []
  | cons {a b : Outline} {as bs : List Outline} :
      R a b → Threaded R as bs → Threaded R (a :: as) (b :: bs)
  | remark {c : Outline} {as bs : List Outline} :
      IsRemark c → Threaded R as bs → Threaded R as (c :: bs)

/-- **`Remarked P a b`** — the second tree is the first with comments put in below its nodes. Where
a node starts and stops in one tree is related to where it does in the other. -/
inductive Remarked (P : Spot → Spot → Spot → Spot → Prop) : Outline → Outline → Prop
  | node {kind : Kind} {role : Option Role} {missing : Bool} {start stop start' stop' : Spot}
      {children children' : List Outline} :
      P start stop start' stop' → Threaded (Remarked P) children children' →
        Remarked P (.node kind role missing start stop children)
          (.node kind role missing start' stop' children')

namespace Threaded

variable {R S : Outline → Outline → Prop} {as bs cs ds : List Outline}

theorem imp (hRS : ∀ a ∈ as, ∀ b, R a b → S a b) (h : Threaded R as bs) : Threaded S as bs := by
  induction h with
  | nil => exact .nil
  | cons hab _ ih =>
      exact .cons (hRS _ List.mem_cons_self _ hab)
        (ih fun a ha => hRS a (List.mem_cons_of_mem _ ha))
  | remark hc _ ih => exact .remark hc (ih hRS)

theorem append (h : Threaded R as bs) (h' : Threaded R cs ds) :
    Threaded R (as ++ cs) (bs ++ ds) := by
  induction h with
  | nil => exact h'
  | cons hab _ ih => exact .cons hab ih
  | remark hc _ ih => exact .remark hc ih

/-- What is taken from the nodes that pass a test, which no comment does. -/
theorem map_filter {α : Type} {test : Outline → Bool} {f : Outline → α}
    (htest : ∀ a b, R a b → test a = test b ∧ (test a = true → f a = f b))
    (hremark : ∀ c, IsRemark c → test c = false) (h : Threaded R as bs) :
    (as.filter test).map f = (bs.filter test).map f := by
  induction h with
  | nil => rfl
  | @cons a b as bs hab _ ih =>
      obtain ⟨hsame, hf⟩ := htest a b hab
      rw [List.filter_cons, List.filter_cons, ← hsame]
      split
      · rename_i hpass
        rw [List.map_cons, List.map_cons, hf hpass, ih]
      · exact ih
  | @remark c as bs hc _ ih =>
      rw [List.filter_cons, hremark c hc]
      exact ih

/-- The first node that passes a test that no comment passes is the same one. -/
theorem find? {test : Outline → Bool} (htest : ∀ a b, R a b → test a = test b)
    (hremark : ∀ c, IsRemark c → test c = false) (h : Threaded R as bs) :
    (as.find? test = none ∧ bs.find? test = none) ∨
      ∃ a b, as.find? test = some a ∧ bs.find? test = some b ∧ R a b := by
  induction h with
  | nil => exact .inl ⟨rfl, rfl⟩
  | @cons a b as bs hab _ ih =>
      rw [List.find?_cons, List.find?_cons, ← htest a b hab]
      cases test a with
      | false => exact ih
      | true => exact .inr ⟨a, b, rfl, rfl, hab⟩
  | @remark c as bs hc _ ih =>
      rw [List.find?_cons, hremark c hc]
      exact ih

theorem flatMap {α : Type} {f : Outline → List α} (hf : ∀ a b, R a b → f a = f b)
    (hremark : ∀ c, IsRemark c → f c = []) (h : Threaded R as bs) :
    as.flatMap f = bs.flatMap f := by
  induction h with
  | nil => rfl
  | @cons a b as bs hab _ ih => rw [List.flatMap_cons, List.flatMap_cons, hf a b hab, ih]
  | @remark c as bs hc _ ih => rw [List.flatMap_cons, hremark c hc, List.nil_append, ih]

end Threaded

namespace Remarked

variable {P Q : Spot → Spot → Spot → Spot → Prop} {a b : Outline}

theorem kind_eq (h : Remarked P a b) : a.kind = b.kind := by
  cases h
  rfl

theorem role_eq (h : Remarked P a b) : a.role = b.role := by
  cases h
  rfl

theorem children (h : Remarked P a b) : Threaded (Remarked P) a.children b.children := by
  cases h
  assumption

theorem spots (h : Remarked P a b) : P a.start a.stop b.start b.stop := by
  cases h
  assumption

theorem imp (hPQ : ∀ s e s' e', P s e s' e' → Q s e s' e') (h : Remarked P a b) :
    Remarked Q a b := by
  induction a using Outline.induction generalizing b with
  | node kind role missing start stop children ih =>
      cases h with
      | node hspots hchildren =>
          exact .node (hPQ _ _ _ _ hspots) (hchildren.imp fun c hc d hd => ih c hc hd)

end Remarked

/-! ## §B Where text is kept -/

/-- What is taken from a node: its type, its type with the elements of an interface, its text, or the
parts it has. -/
inductive Use where
  | type
  | declared
  | text
  | parts
deriving DecidableEq

/-- What is taken from a child of a node. Names are always known by their text. -/
def useIn (parent : Kind) (c : Outline) : Use :=
  if parent == .typeElement || c.kind == .typeName || c.kind == .fieldName then .text
  else if parent == .pointerType || parent == .bracketedType then .type
  else
    match c.role with
    | none => .parts
    | some .parameters => .parts
    | some .length => .text
    | some .result => if c.kind == .parameters then .parts else .type
    | some _ => .type

/-- Whether a type is made of the types of its parts, so that its text does not matter. Names,
qualified names, function types and types without a shape of their own are known by their text. -/
def hasParts (kind : Kind) (children : List Outline) : Bool :=
  match kind with
  | .pointerType | .bracketedType => children.any fun c => !isPunctuation c.kind
  | .sliceType | .arrayType | .countedArrayType => children.any fun c => c.role == some .element
  | .channelType => children.any fun c => c.role == some .value
  | .mapType =>
    (children.any fun c => c.role == some .key) && children.any fun c => c.role == some .value
  | .structType | .interfaceType => true
  | _ => false

/-- Whether the text of a node matters. -/
def keepsText (use : Use) (kind : Kind) (children : List Outline) : Bool :=
  match use, kind with
  | .text, _ => true
  | .type, kind | .declared, kind => !hasParts kind children
  -- an element is known by its term, a union of several terms by its text
  | .parts, .typeElement => (children.filter fun c => c.kind != .comment).length != 1
  | .parts, _ => false

/-- Whether the children of a node matter. As types all interfaces are the same, so the elements of
one matter only where it is declared. -/
def keepsParts (use : Use) (kind : Kind) : Bool := !(use == .type && kind == .interfaceType)

mutual

/-- Whether a place is inside of no text that matters, in a node of the given use. -/
def isClear (k : Nat) (use : Use) : Outline → Bool
  | .node kind _ _ start stop children =>
    (!keepsText use kind children || !(decide (start.index < k) && decide (k < stop.index))) &&
      (!keepsParts use kind || areClear k kind children)

/-- Whether a place is inside of no text that matters, in the children of a node. -/
def areClear (k : Nat) (parent : Kind) : List Outline → Bool
  | [] => true
  | c :: cs => isClear k (useIn parent c) c && areClear k parent cs

end

/-- The text of a node that a place is not inside of stays as it is. -/
def SameText (k : Nat) (start stop start' stop' : Spot) : Prop :=
  ¬(start.index < k ∧ k < stop.index) → start.textTo stop = start'.textTo stop'

instance (k : Nat) (start stop start' stop' : Spot) : Decidable (SameText k start stop start' stop') :=
  inferInstanceAs (Decidable (¬(start.index < k ∧ k < stop.index) →
    start.textTo stop = start'.textTo stop'))

theorem areClear_iff (k : Nat) (parent : Kind) (cs : List Outline) :
    areClear k parent cs = true ↔ ∀ c ∈ cs, isClear k (useIn parent c) c = true := by
  induction cs with
  | nil => simp [areClear]
  | cons c cs ih => rw [areClear, Bool.and_eq_true, ih, List.forall_mem_cons]

/-- A place is clear of a node if it is not inside of its text, should that matter, and clear of the
children, should they matter. -/
theorem isClear_node {k : Nat} {use : Use} {kind : Kind} {role : Option Role} {missing : Bool}
    {start stop : Spot} {children : List Outline} :
    isClear k use (.node kind role missing start stop children) = true ↔
      (keepsText use kind children = true → ¬(start.index < k ∧ k < stop.index)) ∧
        (keepsParts use kind = true → areClear k kind children = true) := by
  have hinside : (!(decide (start.index < k) && decide (k < stop.index))) = true ↔
      ¬(start.index < k ∧ k < stop.index) := by
    rw [Bool.not_eq_true', ← Bool.not_eq_true, Bool.and_eq_true, decide_eq_true_eq,
      decide_eq_true_eq]
  rw [isClear, Bool.and_eq_true, Bool.or_eq_true, hinside]
  cases keepsText use kind children <;> cases keepsParts use kind <;> simp only [Bool.not_false,
    Bool.not_true, Bool.true_or, Bool.false_or, true_or, false_or, Bool.false_eq_true,
    false_imp_iff, true_imp_iff]

theorem isClear_children {k : Nat} {use : Use} {o : Outline} (h : isClear k use o = true)
    (hparts : keepsParts use o.kind = true) :
    ∀ c ∈ o.children, isClear k (useIn o.kind c) c = true := by
  cases o with
  | node kind role missing start stop children =>
      exact (areClear_iff k kind children).mp ((isClear_node.mp h).2 hparts)

theorem keepsParts_of_use {use : Use} (huse : use ≠ .type) (kind : Kind) :
    keepsParts use kind = true := by
  rw [keepsParts, beq_false_of_ne huse]
  rfl

theorem keepsParts_of_kind (use : Use) {kind : Kind} (hkind : kind ≠ .interfaceType) :
    keepsParts use kind = true := by
  rw [keepsParts, beq_false_of_ne hkind, Bool.and_false]
  rfl

/-- A place that is clear of a declared type, or of a text, is clear of the type. -/
theorem isClear_type {k : Nat} {use : Use} {o : Outline} (h : isClear k use o = true)
    (huse : use ∈ [Use.type, .declared, .text]) : isClear k .type o = true := by
  cases o with
  | node kind role missing start stop children =>
      obtain ⟨htext, hparts⟩ := isClear_node.mp h
      simp only [List.mem_cons, List.not_mem_nil, or_false] at huse
      refine isClear_node.mpr ⟨fun hkeeps => htext ?_, fun hkeeps => hparts ?_⟩
      · rcases huse with rfl | rfl | rfl
        · exact hkeeps
        · exact hkeeps
        · rfl
      · rcases huse with rfl | rfl | rfl
        · exact hkeeps
        · exact keepsParts_of_use (by decide) kind
        · exact keepsParts_of_use (by decide) kind

theorem useIn_name (parent : Kind) {c : Outline} (hkind : c.kind = .fieldName ∨ c.kind = .typeName) :
    useIn parent c = .text := by
  unfold useIn
  rcases hkind with hkind | hkind <;> simp [hkind]

section Alike

variable {k : Nat} {use : Use} {a b : Outline}

/-- The text of a node stays as it is where it matters. -/
theorem Remarked.text_eq (h : Remarked (SameText k) a b) (hclear : isClear k use a = true)
    (hkeeps : keepsText use a.kind a.children = true) : a.text = b.text := by
  cases h with
  | node hspots hchildren => exact hspots ((isClear_node.mp hclear).1 hkeeps)

/-- **`Child k parent a b`** — a child of a node and the one that it becomes. -/
structure Child (k : Nat) (parent : Kind) (a b : Outline) : Prop where
  remarked : Remarked (SameText k) a b
  clear : isClear k (useIn parent a) a = true

/-- The children of a node, in pairs. -/
theorem Remarked.pairs (h : Remarked (SameText k) a b) (hclear : isClear k use a = true)
    (hparts : keepsParts use a.kind = true) :
    Threaded (Child k a.kind) a.children b.children :=
  h.children.imp fun c hc _ hd => ⟨hd, isClear_children hclear hparts c hc⟩

theorem Remarked.string_eq (h : Remarked (SameText k) a b) (hclear : isClear k .text a = true) :
    a.string = b.string := by
  rw [Outline.string, Outline.string, h.text_eq hclear rfl]

/-- A name stays as it is. -/
theorem Child.string_eq {parent : Kind} (h : Child k parent a b)
    (hkind : a.kind = .fieldName ∨ a.kind = .typeName) : a.string = b.string := by
  have hclear := h.clear
  rw [useIn_name parent hkind] at hclear
  exact h.remarked.string_eq hclear

end Alike

section Children

variable {P : Spot → Spot → Spot → Spot → Prop} {R : Outline → Outline → Prop}
  {as bs : List Outline}

/-- The first child of a kind. -/
theorem Threaded.find?_kind (h : Threaded R as bs) (hR : ∀ a b, R a b → Remarked P a b) (kind : Kind)
    (hkind : kind ≠ .comment) :
    ((as.find? fun c => c.kind == kind) = none ∧ (bs.find? fun c => c.kind == kind) = none) ∨
      ∃ a b, (as.find? fun c => c.kind == kind) = some a ∧
        (bs.find? fun c => c.kind == kind) = some b ∧ a.kind = kind ∧ a ∈ as ∧ R a b := by
  have htest : ∀ a b, R a b → (a.kind == kind) = (b.kind == kind) :=
    fun a b hab => by rw [(hR a b hab).kind_eq]
  have hremark : ∀ c, IsRemark c → (c.kind == kind) = false := fun c hc => by
    rw [hc.kind]
    exact beq_false_of_ne hkind.symm
  rcases h.find? htest hremark with hnone | ⟨a, b, ha, hb, hab⟩
  · exact .inl hnone
  · exact .inr ⟨a, b, ha, hb, by simpa using List.find?_some ha, List.mem_of_find?_eq_some ha, hab⟩

/-- The child with a role. -/
theorem Threaded.find?_role (h : Threaded R as bs) (hR : ∀ a b, R a b → Remarked P a b)
    (role : Role) :
    ((as.find? fun c => c.role == some role) = none ∧
      (bs.find? fun c => c.role == some role) = none) ∨
      ∃ a b, (as.find? fun c => c.role == some role) = some a ∧
        (bs.find? fun c => c.role == some role) = some b ∧ a.role = some role ∧ a ∈ as ∧ R a b := by
  have htest : ∀ a b, R a b → (a.role == some role) = (b.role == some role) :=
    fun a b hab => by rw [(hR a b hab).role_eq]
  have hremark : ∀ c, IsRemark c → (c.role == some role) = false := fun c hc => by
    rw [hc.role]
    rfl
  rcases h.find? htest hremark with hnone | ⟨a, b, ha, hb, hab⟩
  · exact .inl hnone
  · exact .inr ⟨a, b, ha, hb, by simpa using List.find?_some ha, List.mem_of_find?_eq_some ha, hab⟩

/-- What is taken from the children of a kind. -/
theorem Threaded.map_filter_kind {α : Type} (h : Threaded R as bs)
    (hR : ∀ a b, R a b → Remarked P a b) (kind : Kind) (hkind : kind ≠ .comment) {f : Outline → α}
    (hf : ∀ a b, R a b → a.kind = kind → f a = f b) :
    (as.filter fun c => c.kind == kind).map f = (bs.filter fun c => c.kind == kind).map f := by
  refine h.map_filter (fun a b hab => ⟨by rw [(hR a b hab).kind_eq], fun ha => ?_⟩) fun c hc => ?_
  · exact hf a b hab (eq_of_beq ha)
  · rw [hc.kind]
    exact beq_false_of_ne hkind.symm

end Children

/-! ## §C Types -/

theorem isSome_innerType (cs : List Outline) :
    (innerType cs).isSome = cs.any fun c => !isPunctuation c.kind := by
  induction cs with
  | nil => rfl
  | cons c cs ih =>
      rw [innerType, List.any_cons]
      cases isPunctuation c.kind
      · rfl
      · exact ih

theorem isSome_typeAt (role : Role) (cs : List Outline) :
    (typeAt role cs).isSome = cs.any fun c => c.role == some role := by
  induction cs with
  | nil => rfl
  | cons c cs ih =>
      rw [typeAt, List.any_cons]
      cases c.role == some role
      · exact ih
      · rfl

section Lists

variable {k : Nat} {parent : Kind} {as bs : List Outline}

theorem innerType_threaded (h : Threaded (fun a b => a.kind = b.kind ∧ typeOf a = typeOf b) as bs) :
    innerType as = innerType bs := by
  induction h with
  | nil => rfl
  | @cons a b as bs hab _ ih => rw [innerType, innerType, hab.1, hab.2, ih]
  | @remark c as bs hc _ ih =>
      rw [innerType, hc.kind, ih]
      rfl

theorem typeAt_threaded {role : Role} (h : Threaded (fun a b =>
    a.role = b.role ∧ (a.role = some role → typeOf a = typeOf b)) as bs) :
    typeAt role as = typeAt role bs := by
  induction h with
  | nil => rfl
  | @cons a b as bs hab _ ih =>
      rw [typeAt, typeAt, ← hab.1, ih]
      by_cases hrole : a.role = some role
      · rw [hab.2 hrole]
      · rw [if_neg (by simpa using hrole), if_neg (by simpa using hrole)]
  | @remark c as bs hc _ ih =>
      rw [typeAt, hc.role, ih]
      rfl

theorem structFields_cons (o : Outline) (cs : List Outline) :
    structFields (o :: cs) =
      if o.kind == .fields then fieldsOf o.children else structFields cs := by
  cases o
  rw [structFields]
  rfl

/-- The fields that a node declares. -/
def fieldsAt (o : Outline) : List (Field GoType) :=
  if o.kind == .field then
    ((typeAt .type o.children).map (declaredFields o.children)).getD []
  else []

theorem fieldsOf_eq_flatMap (cs : List Outline) : fieldsOf cs = cs.flatMap fieldsAt := by
  induction cs with
  | nil => rfl
  | cons c cs ih =>
      rw [List.flatMap_cons, ← ih]
      cases c
      rw [fieldsOf]
      rfl

theorem declaredFields_threaded (h : Threaded (Child k parent) as bs) (type : GoType) :
    declaredFields as type = declaredFields bs type := by
  have hremarked : ∀ a b, Child k parent a b → Remarked (SameText k) a b := fun _ _ hab => hab.remarked
  have hnames := h.map_filter_kind hremarked .fieldName (by decide) (f := fun name =>
    (⟨name.string, type, false⟩ : Field GoType)) fun a b hab hkind => by
      rw [hab.string_eq (.inl hkind)]
  have hpointer : (as.any fun c => c.kind == .other "*") =
      bs.any fun c => c.kind == .other "*" := by
    rw [← List.isSome_find?, ← List.isSome_find?]
    rcases h.find?_kind hremarked (.other "*") (by decide) with ⟨ha, hb⟩ | ⟨a, b, ha, hb, -⟩
    · rw [ha, hb]
    · rw [ha, hb]
      rfl
  unfold declaredFields
  rw [hpointer]
  -- an embedded field in both, or names in both
  split
  · rename_i hnone
    rw [hnone, List.map_nil] at hnames
    rw [List.map_eq_nil_iff.mp hnames.symm]
  · rename_i hsome
    rw [hnames]
    split
    · rename_i hnone
      rw [hnone, List.map_nil] at hnames
      exact absurd (List.map_eq_nil_iff.mp hnames) hsome
    · rfl

end Lists

/-- A place that is clear of a child that is read as a type is clear of its type. -/
theorem Child.clear_type {k : Nat} {parent : Kind} {a b : Outline} (h : Child k parent a b)
    (hread : parent = .pointerType ∨ parent = .bracketedType ∨
      ∃ role ∈ [Role.type, .element, .key, .value], a.role = some role) :
    isClear k .type a = true := by
  refine isClear_type h.clear ?_
  unfold useIn
  split
  · decide
  · split
    · decide
    · rename_i hpointer
      rcases hread with rfl | rfl | ⟨role, hrole, ha⟩
      · exact absurd rfl hpointer
      · exact absurd rfl hpointer
      · rw [ha]
        simp only [List.mem_cons, List.not_mem_nil, or_false] at hrole
        rcases hrole with rfl | rfl | rfl | rfl <;> exact List.mem_cons_self

/-- **`ReadAlike k a b`** — what is read from a node as a type, as a field declaration and as a list
of these is the same for both. -/
structure ReadAlike (k : Nat) (a b : Outline) : Prop where
  type : isClear k .type a = true → typeOf a = typeOf b
  field : ∀ use, isClear k use a = true → fieldsAt a = fieldsAt b
  fields : a.kind = .fields → ∀ use, isClear k use a = true →
    fieldsOf a.children = fieldsOf b.children

section Node

variable {k : Nat} {kind : Kind} {as bs : List Outline}
  (h : Threaded (fun a b => Child k kind a b ∧ ReadAlike k a b) as bs)

include h

theorem typeAt_alike (role : Role) (hrole : role ∈ [Role.type, .element, .key, .value]) :
    typeAt role as = typeAt role bs := by
  refine typeAt_threaded (h.imp fun a _ b hab => ⟨hab.1.remarked.role_eq, fun ha => ?_⟩)
  exact hab.2.type (hab.1.clear_type (.inr (.inr ⟨role, hrole, ha⟩)))

/-- A type of one part, or of a text where it does not have that part. -/
theorem ofPart_alike {role : Role} (hrole : role ∈ [Role.type, .element, .key, .value])
    {f : GoType → GoType} {text text' : GoType}
    (htext : (as.any fun c => c.role == some role) = false → text = text') :
    ((typeAt role as).map f).getD text = ((typeAt role bs).map f).getD text' := by
  rw [← typeAt_alike h role hrole]
  cases hpart : typeAt role as with
  | none => exact htext (by rw [← isSome_typeAt, hpart, Option.isSome_none])
  | some t => rfl

/-- The same for the part that is no punctuation. -/
theorem ofInner_alike (hkind : kind = .pointerType ∨ kind = .bracketedType) {f : GoType → GoType}
    {text text' : GoType}
    (htext : (as.any fun c => !isPunctuation c.kind) = false → text = text') :
    ((innerType as).map f).getD text = ((innerType bs).map f).getD text' := by
  have hinner : innerType as = innerType bs := by
    refine innerType_threaded (h.imp fun a _ b hab => ⟨hab.1.remarked.kind_eq, hab.2.type ?_⟩)
    exact hab.1.clear_type (hkind.imp_right .inl)
  rw [← hinner]
  cases hpart : innerType as with
  | none => exact htext (by rw [← isSome_innerType, hpart, Option.isSome_none])
  | some t => rfl

theorem length_alike (hkind : kind = .arrayType) :
    ((as.find? fun c => c.role == some .length).bind fun c =>
        Text.wholeNumber? (Text.trim c.text)) =
      (bs.find? fun c => c.role == some .length).bind fun c =>
        Text.wholeNumber? (Text.trim c.text) := by
  subst hkind
  rcases h.find?_role (fun _ _ hab => hab.1.remarked) .length with
    ⟨ha, hb⟩ | ⟨a, b, ha, hb, hrole, -, hab, -⟩
  · rw [ha, hb]
  · have huse : useIn .arrayType a = .text := by
      unfold useIn
      rw [hrole]
      split <;> rfl
    have htext := hab.remarked.text_eq hab.clear (by rw [huse]; rfl)
    rw [ha, hb, Option.bind_some, Option.bind_some, htext]

theorem structFields_alike : structFields as = structFields bs := by
  induction h with
  | nil => rfl
  | @cons a b as bs hab _ ih =>
      rw [structFields_cons, structFields_cons, ih, ← hab.1.remarked.kind_eq]
      split
      · rename_i hfields
        exact hab.2.fields (eq_of_beq hfields) _ hab.1.clear
      · rfl
  | @remark c as bs hc _ ih =>
      rw [structFields_cons, hc.kind, ih]
      rfl

end Node

theorem typeOf_node {k : Nat} {kind : Kind} {role role' : Option Role} {missing missing' : Bool}
    {start stop start' stop' : Spot} {children children' : List Outline}
    (h : Threaded (fun a b => Child k kind a b ∧ ReadAlike k a b) children children')
    (htext : hasParts kind children = false → start.textTo stop = start'.textTo stop') :
    typeOf (.node kind role missing start stop children) =
      typeOf (.node kind role' missing' start' stop' children') := by
  have hverbatim : hasParts kind children = false →
      GoType.other (String.ofList (start.textTo stop)) =
        .other (String.ofList (start'.textTo stop')) := fun hparts => by rw [htext hparts]
  cases kind with
  | structType => rw [typeOf, typeOf, structFields_alike h]
  | interfaceType => rw [typeOf, typeOf]
  | pointerType =>
      rw [typeOf, typeOf]
      exact ofInner_alike h (.inl rfl) hverbatim
  | bracketedType =>
      have hinner := ofInner_alike h (.inr rfl) hverbatim (f := id)
      rw [Option.map_id] at hinner
      rw [typeOf, typeOf]
      exact hinner
  | sliceType =>
      rw [typeOf, typeOf]
      exact ofPart_alike h (by decide) hverbatim
  | arrayType =>
      rw [typeOf, typeOf, length_alike h rfl]
      exact ofPart_alike h (by decide) hverbatim
  | countedArrayType =>
      rw [typeOf, typeOf]
      exact ofPart_alike h (by decide) hverbatim
  | channelType =>
      rw [typeOf, typeOf]
      exact ofPart_alike h (by decide) hverbatim
  | mapType =>
      have hkey := typeAt_alike h .key (by decide)
      have hvalue := typeAt_alike h .value (by decide)
      rw [hasParts, ← isSome_typeAt, ← isSome_typeAt] at hverbatim
      rw [typeOf, typeOf, ← hkey, ← hvalue]
      -- a map that lacks a part is known by its text
      cases hkey' : typeAt .key children with
      | none => exact hverbatim (by rw [hkey']; rfl)
      | some key =>
          cases hvalue' : typeAt .value children with
          | none => exact hverbatim (by rw [hkey', hvalue']; rfl)
          | some value => rfl
  | _ => simp only [typeOf, htext rfl]

theorem Remarked.readAlike {k : Nat} {a b : Outline} (h : Remarked (SameText k) a b) :
    ReadAlike k a b := by
  induction a using Outline.induction generalizing b with
  | node kind role missing start stop children ih =>
      have hpairs : ∀ use, isClear k use (.node kind role missing start stop children) = true →
          keepsParts use kind = true →
          Threaded (fun a b => Child k kind a b ∧ ReadAlike k a b) children b.children := by
        intro use hclear hparts
        exact (h.pairs hclear hparts).imp fun c hc d hd => ⟨hd, ih c hc hd.remarked⟩
      -- the types of fields are three nodes below a struct, and each node on the way has its part
      refine ⟨fun hclear => ?_, fun use hclear => ?_, fun hlist use hclear => ?_⟩
      · have htext := h.text_eq hclear
        have hkind := h.kind_eq
        cases b
        cases hkind
        by_cases hinterface : kind = .interfaceType
        · rw [hinterface, typeOf, typeOf]
        · refine typeOf_node (hpairs .type hclear (keepsParts_of_kind _ hinterface)) fun hwhole => ?_
          refine htext ?_
          show (!hasParts kind children) = true
          rw [hwhole]
          rfl
      · rw [fieldsAt, fieldsAt, ← h.kind_eq]
        split
        · rename_i hfield
          have hkind : kind = .field := eq_of_beq hfield
          have hchildren := hpairs use hclear (keepsParts_of_kind use (by rw [hkind]; decide))
          have htype := typeAt_alike hchildren .type (by decide)
          rw [Outline.children, htype]
          congr 2
          exact funext (declaredFields_threaded (hchildren.imp fun _ _ _ hcd => hcd.1))
        · rfl
      · have hkind : kind = .fields := hlist
        have hchildren := hpairs use hclear (keepsParts_of_kind use (by rw [hkind]; decide))
        rw [fieldsOf_eq_flatMap, fieldsOf_eq_flatMap]
        refine hchildren.flatMap (fun c d hcd => hcd.2.field _ hcd.1.clear) fun c hc => ?_
        rw [fieldsAt, hc.kind]
        rfl

/-- The type of a node does not depend on comments. -/
theorem Remarked.typeOf_eq {k : Nat} {a b : Outline} (h : Remarked (SameText k) a b)
    (hclear : isClear k .type a = true) : typeOf a = typeOf b :=
  h.readAlike.type hclear

/-! ## §D Parameters and elements -/

section Elements

variable {k : Nat} {use : Use} {parent : Kind} {a b : Outline}

/-- The type that a child with the role of a type has, by itself. -/
theorem Child.typeOf_eq (h : Child k parent a b) (hrole : a.role = some .type) :
    typeOf a = typeOf b := by
  refine h.remarked.typeOf_eq (h.clear_type (.inr (.inr ⟨.type, ?_, hrole⟩)))
  decide

/-- What is taken from the child with a role. -/
theorem Remarked.map_child? {α : Type} {f : Outline → α} (h : Remarked (SameText k) a b)
    (hclear : isClear k use a = true) (hparts : keepsParts use a.kind = true) (role : Role)
    (hf : ∀ c d, Child k a.kind c d → c.role = some role → f c = f d) :
    (a.child? role).map f = (b.child? role).map f := by
  rw [Outline.child?, Outline.child?]
  rcases (h.pairs hclear hparts).find?_role (fun _ _ hab => hab.remarked) role with
    ⟨hc, hd⟩ | ⟨c, d, hc, hd, hrole, -, hcd⟩
  · rw [hc, hd]
  · rw [hc, hd, Option.map_some, Option.map_some, hf c d hcd hrole]

theorem Remarked.repeated_eq (h : Remarked (SameText k) a b) (type : GoType) :
    paramTypes.repeated a type = paramTypes.repeated b type := by
  have hnames : (a.children.filter fun c => c.kind == .name).map (fun _ => ()) =
      (b.children.filter fun c => c.kind == .name).map fun _ => () := by
    refine h.children.map_filter (fun c d hcd => ⟨by rw [hcd.kind_eq], fun _ => rfl⟩) fun c hc => ?_
    rw [hc.kind]
    rfl
  have hlength := congrArg List.length hnames
  rw [List.length_map, List.length_map] at hlength
  rw [paramTypes.repeated, paramTypes.repeated, hlength]

theorem Remarked.paramTypes_eq (h : Remarked (SameText k) a b) (hclear : isClear k use a = true)
    (hparts : keepsParts use a.kind = true) : paramTypes a = paramTypes b := by
  refine (h.pairs hclear hparts).flatMap (fun c d hcd => ?_) fun c hc => ?_
  · rw [← hcd.remarked.kind_eq]
    by_cases hinterface : c.kind = .interfaceType
    · rw [hinterface]
    · have htype : (c.child? .type).map typeOf = (d.child? .type).map typeOf :=
        hcd.remarked.map_child? hcd.clear (keepsParts_of_kind _ hinterface) .type
          fun x y hxy hrole => hxy.typeOf_eq hrole
      rw [htype]
      simp only [hcd.remarked.repeated_eq]
  · rw [hc.kind]

theorem Child.paramTypes_eq (h : Child k parent a b) (hrole : a.role = some .parameters)
    (hparent : parent = .methodElement) : paramTypes a = paramTypes b := by
  refine h.remarked.paramTypes_eq h.clear (keepsParts_of_use ?_ _)
  subst hparent
  unfold useIn
  rw [hrole]
  split
  · decide
  · exact Use.noConfusion

theorem Child.resultTypes_eq (h : Child k parent a b) (hrole : a.role = some .result)
    (hparent : parent = .methodElement) : resultTypes a = resultTypes b := by
  subst hparent
  rw [resultTypes, resultTypes, ← h.remarked.kind_eq]
  split
  · rename_i hkind
    refine h.remarked.paramTypes_eq h.clear (keepsParts_of_kind _ ?_)
    rw [eq_of_beq hkind]
    decide
  · rename_i hkind
    have huse : useIn .methodElement a ∈ [Use.type, .declared, .text] := by
      unfold useIn
      rw [hrole]
      split
      · decide
      · split
        · decide
        · exact List.mem_cons_self
    rw [h.remarked.typeOf_eq (isClear_type h.clear huse)]

/-- A signature without its source text. -/
def Signature.bare (s : Signature) : Signature := { s with text := "" }

/-- An element without the source text of its signature. -/
def ElementKind.bare : ElementKind → ElementKind
  | .method s => .method s.bare
  | .embed x => .embed x

theorem Remarked.signature?_eq (h : Remarked (SameText k) a b) (hclear : isClear k use a = true)
    (hkind : a.kind = .methodElement) :
    (signature? a).map Signature.bare = (signature? b).map Signature.bare := by
  have hparts : keepsParts use a.kind = true := keepsParts_of_kind use (by rw [hkind]; decide)
  have hparams : (a.child? .parameters).map paramTypes = (b.child? .parameters).map paramTypes :=
    h.map_child? hclear hparts .parameters fun c d hcd hrole => hcd.paramTypes_eq hrole hkind
  have hresults : (a.child? .result).map resultTypes = (b.child? .result).map resultTypes :=
    h.map_child? hclear hparts .result fun c d hcd hrole => hcd.resultTypes_eq hrole hkind
  rw [signature?, signature?]
  rcases (h.pairs hclear hparts).find?_kind (fun _ _ hab => hab.remarked) .fieldName (by decide) with
    ⟨ha, hb⟩ | ⟨c, d, hc, hd, hname, -, hcd⟩
  · rw [ha, hb]
    rfl
  · rw [hc, hd]
    simp only [Option.map_some, Signature.bare, hcd.string_eq (.inl hname), hparams, hresults]

/-- Terms are known by their texts. -/
theorem Child.termEmbed_eq (h : Child k .typeElement a b) : termEmbed a = termEmbed b := by
  have htext := h.remarked.text_eq h.clear (by cases a.kind <;> rfl)
  simp only [termEmbed, Outline.string, h.remarked.kind_eq, htext]

theorem embedOf_of_ne {o : Outline} (h : o.solid.length ≠ 1) : embedOf o = termEmbed o := by
  unfold embedOf
  split
  · rename_i hone
    rw [hone] at h
    exact absurd rfl h
  · rfl

theorem Remarked.embedOf_eq (h : Remarked (SameText k) a b) (hclear : isClear k use a = true)
    (hkind : a.kind = .typeElement) : embedOf a = embedOf b := by
  have hpairs := h.pairs hclear (keepsParts_of_kind use (by rw [hkind]; decide))
  rw [hkind] at hpairs
  have hterms : a.solid.map termEmbed = b.solid.map termEmbed := by
    refine hpairs.map_filter (fun c d hcd => ⟨?_, fun _ => hcd.termEmbed_eq⟩) fun c hc => ?_
    · rw [hcd.remarked.kind_eq]
    · rw [hc.kind]
      rfl
  have hlength := congrArg List.length hterms
  rw [List.length_map, List.length_map] at hlength
  by_cases hone : a.solid.length = 1
  · obtain ⟨c, hc⟩ := List.length_eq_one_iff.mp hone
    obtain ⟨d, hd⟩ := List.length_eq_one_iff.mp (hlength ▸ hone)
    rw [hc, hd] at hterms
    rw [embedOf, embedOf, hc, hd]
    exact List.head_eq_of_cons_eq hterms
  · have hkeeps : keepsText use a.kind a.children = true := by
      rw [hkind]
      cases use with
      | parts => exact bne_iff_ne.mpr hone
      | _ => rfl
    have htext := h.text_eq hclear hkeeps
    rw [embedOf_of_ne hone, embedOf_of_ne (hlength ▸ hone)]
    simp only [termEmbed, Outline.string, h.kind_eq, htext]

/-- What a node of a body declares does not depend on comments. -/
theorem Remarked.elementKind?_eq (h : Remarked (SameText k) a b) (hclear : isClear k use a = true) :
    (elementKind? a).map ElementKind.bare = (elementKind? b).map ElementKind.bare := by
  rw [elementKind?, elementKind?, ← h.kind_eq]
  split
  · rename_i hkind
    have hsignature := h.signature?_eq hclear hkind
    have hbare : ElementKind.bare ∘ ElementKind.method = ElementKind.method ∘ Signature.bare := rfl
    rw [Option.map_map, Option.map_map, hbare, ← Option.map_map, ← Option.map_map, hsignature]
  · rename_i hkind
    rw [h.embedOf_eq hclear hkind]
  · rfl

end Elements

/-- The elements among the items of a body. -/
def BodyItem.kind? : BodyItem → Option ElementKind
  | .remark _ => none
  | .element kind _ => some kind

theorem map_kind_attachComments (items : List BodyItem) :
    (attachComments items).map Element.kind = items.filterMap BodyItem.kind? := by
  have hnumbered : ∀ n, (elementsFrom n items).map (fun x => x.2.1) =
      items.filterMap BodyItem.kind? := by
    induction items with
    | nil => exact fun _ => rfl
    | cons item items ih =>
        intro n
        cases item with
        | remark r => exact ih n
        | element kind span =>
            rw [elementsFrom, List.map_cons, ih (n + 1)]
            rfl
  rw [attachComments, List.map_map]
  exact hnumbered 0

theorem filterMap_bodyItems (o : Outline) :
    (bodyItems o).filterMap BodyItem.kind? = (elementKind? o).toList := by
  unfold bodyItems
  split
  · rename_i hkind
    rw [elementKind?, eq_of_beq hkind]
    rfl
  · cases elementKind? o with
    | none => rfl
    | some kind =>
        dsimp only
        rw [List.filterMap_cons, List.filterMap_map]
        exact congrArg (kind :: ·) (List.filterMap_eq_nil_iff.mpr fun _ _ => rfl)

/-- The elements of an interface are those of its nodes, one by one. -/
theorem map_kind_interfaceElements (o : Outline) :
    (interfaceElements o).map Element.kind =
      o.children.flatMap fun c => (elementKind? c).toList := by
  rw [interfaceElements, map_kind_attachComments, List.filterMap_flatMap]
  simp only [filterMap_bodyItems]

/-- The elements of an interface, without their places, comments and source texts. -/
def bareElements (elements : List Element) : List ElementKind :=
  elements.map fun e => e.kind.bare

theorem Remarked.bareElements_eq {k : Nat} {a b : Outline} (h : Remarked (SameText k) a b)
    (hclear : isClear k .declared a = true) :
    bareElements (interfaceElements a) = bareElements (interfaceElements b) := by
  have hkinds : ∀ o, bareElements (interfaceElements o) =
      o.children.flatMap fun c => ((elementKind? c).map ElementKind.bare).toList := by
    intro o
    have hmap := congrArg (List.map ElementKind.bare) (map_kind_interfaceElements o)
    rw [List.map_map, List.map_flatMap] at hmap
    simp only [Option.toList_map]
    exact hmap
  rw [hkinds, hkinds]
  have hpairs := h.pairs hclear (keepsParts_of_use (by decide) _)
  refine hpairs.flatMap (fun c d hcd => ?_) fun c hc => ?_
  · rw [hcd.remarked.elementKind?_eq hcd.clear]
  · rw [elementKind?, hc.kind]
    rfl

/-! ## §E Declarations -/

/-- **`Spec.Agrees s s'`** — the same name is declared in the same way, with the same type and the
same elements but for their places, comments and source texts. -/
structure Spec.Agrees (s s' : Spec) : Prop where
  name : s.name = s'.name
  aliased : s.aliased = s'.aliased
  type : s.type = s'.type
  elements : s.elements.map bareElements = s'.elements.map bareElements

/-- Whether a place is inside of no text that a declaration depends on. Of a declaration the name
matters and what it stands for; parameters of the type do not. -/
def isClearSpec (k : Nat) (o : Outline) : Bool :=
  o.children.all fun c =>
    (c.kind != .typeName || isClear k .text c) && (c.role != some .type || isClear k .declared c)

theorem Remarked.spec?_agrees {k : Nat} {a b : Outline} (h : Remarked (SameText k) a b)
    (hclear : isClearSpec k a = true) :
    (spec? a = none ∧ spec? b = none) ∨
      ∃ s s', spec? a = some s ∧ spec? b = some s' ∧ s.Agrees s' := by
  rw [isClearSpec, List.all_eq_true] at hclear
  rw [spec?, spec?, Outline.child?, Outline.child?]
  rcases h.children.find?_kind (fun _ _ hab => hab) .typeName (by decide) with
    ⟨ha, hb⟩ | ⟨name, name', ha, hb, hnamed, hmem, hname⟩
  · rw [ha, hb]
    exact .inl ⟨rfl, rfl⟩
  rcases h.children.find?_role (fun _ _ hab => hab) .type with
    ⟨hc, hd⟩ | ⟨type, type', hc, hd, hrole, hmem', htype⟩
  · rw [ha, hb, hc, hd]
    exact .inl ⟨rfl, rfl⟩
  have hnameClear : isClear k .text name = true := by
    have hboth := hclear name hmem
    rw [Bool.and_eq_true, hnamed, bne_self_eq_false, Bool.false_or] at hboth
    exact hboth.1
  have htypeClear : isClear k .declared type = true := by
    have hboth := hclear type hmem'
    rw [Bool.and_eq_true, hrole, bne_self_eq_false, Bool.false_or] at hboth
    exact hboth.2
  rw [ha, hb, hc, hd]
  refine .inr ⟨_, _, rfl, rfl, hname.string_eq hnameClear, ?_, ?_, ?_⟩
  · exact congrArg (· == Kind.typeAlias) h.kind_eq
  · exact htype.typeOf_eq (isClear_type htypeClear (by decide))
  · dsimp only
    rw [htype.kind_eq]
    split
    · rw [Option.map_some, Option.map_some, htype.bareElements_eq htypeClear]
    · rfl

theorem select_remark {test : Kind → Bool} (htest : test .comment = false) {c : Outline}
    (hc : IsRemark c) (rest : List Outline) : c.select test rest = rest := by
  obtain ⟨hkind, -, hchildren⟩ := hc
  cases c
  cases hkind
  cases hchildren
  rw [Outline.select, htest]
  rfl

/-- The nodes of some kinds, comments apart, are those of the other tree one by one. -/
theorem Remarked.select {P : Spot → Spot → Spot → Spot → Prop} {test : Kind → Bool}
    (htest : test .comment = false) {a b : Outline} (h : Remarked P a b) {rest rest' : List Outline}
    (hrest : List.Forall₂ (fun o o' => Remarked P o o' ∧ test o.kind = true) rest rest') :
    List.Forall₂ (fun o o' => Remarked P o o' ∧ test o.kind = true) (a.select test rest)
      (b.select test rest') := by
  induction a using Outline.induction generalizing b rest rest' with
  | node kind role missing start stop children ih =>
      cases h with
      | @node _ _ _ _ _ start' stop' _ children' hspots hchildren =>
          -- from the last child to the first, since what follows is selected already
          have hinner : ∀ cs ds, (∀ c ∈ cs, c ∈ children) → Threaded (Remarked P) cs ds →
              List.Forall₂ (fun o o' => Remarked P o o' ∧ test o.kind = true)
                (Outline.selectAll test cs rest) (Outline.selectAll test ds rest') := by
            intro cs ds hmem hcs
            induction hcs with
            | nil => exact hrest
            | @cons c d cs ds hcd _ ihcs =>
                rw [Outline.selectAll, Outline.selectAll]
                exact ih c (hmem c List.mem_cons_self) hcd
                  (ihcs fun x hx => hmem x (List.mem_cons_of_mem _ hx))
            | @remark c cs ds hc _ ihcs =>
                rw [Outline.selectAll, select_remark htest hc]
                exact ihcs hmem
          have hall := hinner children children' (fun _ hc => hc) hchildren
          rw [Outline.select, Outline.select]
          split
          · rename_i hkind
            exact .cons ⟨.node hspots hchildren, hkind⟩ hall
          · exact hall

/-- Whether a place is inside of no text that a declaration of a file depends on. -/
def isClearFile (k : Nat) (root : Outline) : Bool := (root.select isSpec []).all (isClearSpec k)

/-- What a file declares does not depend on comments. -/
theorem Remarked.specs_agree {k : Nat} {root root' : Outline} (h : Remarked (SameText k) root root')
    (hclear : isClearFile k root = true) :
    List.Forall₂ Spec.Agrees (File.ofOutline root).specs (File.ofOutline root').specs := by
  have hselected : List.Forall₂ (fun o o' => Remarked (SameText k) o o' ∧ isSpec o.kind = true)
      (root.select isSpec []) (root'.select isSpec []) := h.select rfl .nil
  rw [isClearFile, List.all_eq_true] at hclear
  rw [File.ofOutline, File.ofOutline]
  dsimp only
  generalize root.select isSpec [] = nodes at hselected hclear ⊢
  generalize root'.select isSpec [] = nodes' at hselected ⊢
  induction hselected with
  | nil => exact .nil
  | @cons o o' nodes nodes' ho _ ih =>
      have hrest := ih fun x hx => hclear x (List.mem_cons_of_mem _ hx)
      rw [List.filterMap_cons, List.filterMap_cons]
      rcases ho.1.spec?_agrees (hclear o List.mem_cons_self) with
        ⟨ha, hb⟩ | ⟨s, s', ha, hb, hagrees⟩
      · rw [ha, hb]
        exact hrest
      · rw [ha, hb]
        exact .cons hagrees hrest

end RollCall.Source
