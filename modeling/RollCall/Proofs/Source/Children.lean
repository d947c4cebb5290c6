import RollCall.Proofs.Source.Scan
import RollCall.Source.File

/-!
# RollCall.Proofs.Source.Children — how the direct reader takes the children of a node

The direct reader takes tokens and nodes one after the other as children of the node around them.
Where the next token is known, each of these steps has one outcome, and `items`, the loop over the
parts of a body, goes around once for each part. The proofs about types, fields and methods put
these steps together and never unfold them.

`Clean o` says of a tree that reading it in a file leaves no trace but the tree itself: it has no
fault, and it declares nothing.
-/

namespace RollCall.Source

/-! ## §A Trees without faults and declarations -/

/-- **`Clean o`** — the tree has no fault and declares nothing. -/
def Clean (o : Outline) : Prop :=
  Fault.ofOutline o = [] ∧ ∀ rest, o.select isSpec rest = rest

theorem ofOutlines_eq_nil {children : List Outline} (h : ∀ c ∈ children, Fault.ofOutline c = []) :
    Fault.ofOutlines children = [] := by
  induction children with
  | nil => rfl
  | cons c children ih =>
      rw [Fault.ofOutlines, h c List.mem_cons_self, List.nil_append]
      exact ih fun d hd => h d (List.mem_cons_of_mem _ hd)

theorem selectAll_eq {children : List Outline}
    (h : ∀ c ∈ children, ∀ rest, c.select isSpec rest = rest) (rest : List Outline) :
    Outline.selectAll isSpec children rest = rest := by
  induction children with
  | nil => rfl
  | cons c children ih =>
      rw [Outline.selectAll, ih fun d hd => h d (List.mem_cons_of_mem _ hd)]
      exact h c List.mem_cons_self rest

/-- A node is clean if its children are and it is neither a fault nor a declaration itself. -/
theorem clean_node {kind : Kind} (hfault : kind ≠ .fault) (hspec : isSpec kind = false)
    (role : Option Role) (a b : Text.Spot) {children : List Outline}
    (h : ∀ c ∈ children, Clean c) : Clean (.node kind role false a b children) := by
  constructor
  · rw [Fault.ofOutline, if_neg Bool.false_ne_true, if_neg (by simpa using hfault)]
    exact ofOutlines_eq_nil fun c hc => (h c hc).1
  · intro rest
    rw [Outline.select, hspec]
    exact selectAll_eq (fun c hc => (h c hc).2) rest

/-- A node of given children goes from the first to the last of them. -/
theorem ofChildren_eq (kind : Kind) (role : Option Role) (children : List Outline) :
    ∃ a b, Outline.ofChildren kind role children = .node kind role false a b children := by
  unfold Outline.ofChildren
  split <;> exact ⟨_, _, rfl⟩

/-- The same for a node that is made of its children. -/
theorem clean_ofChildren {kind : Kind} (hfault : kind ≠ .fault) (hspec : isSpec kind = false)
    (role : Option Role) {children : List Outline} (h : ∀ c ∈ children, Clean c) :
    Clean (.ofChildren kind role children) := by
  obtain ⟨a, b, hnode⟩ := ofChildren_eq kind role children
  rw [hnode]
  exact clean_node hfault hspec role a b h

@[simp]
theorem kind_ofChildren (kind : Kind) (role : Option Role) (children : List Outline) :
    (Outline.ofChildren kind role children).kind = kind := by
  obtain ⟨a, b, hnode⟩ := ofChildren_eq kind role children
  rw [hnode, Outline.kind]

@[simp]
theorem role_ofChildren (kind : Kind) (role : Option Role) (children : List Outline) :
    (Outline.ofChildren kind role children).role = role := by
  obtain ⟨a, b, hnode⟩ := ofChildren_eq kind role children
  rw [hnode, Outline.role]

@[simp]
theorem children_ofChildren (kind : Kind) (role : Option Role) (children : List Outline) :
    (Outline.ofChildren kind role children).children = children := by
  obtain ⟨a, b, hnode⟩ := ofChildren_eq kind role children
  rw [hnode, Outline.children]

namespace Plain

/-! ## §B Single steps -/

/-- Whether a token of the shape is part of a node: newlines and comments are not. -/
def Shape.isSolid : Shape → Bool
  | .remark => false
  | .newline => false
  | _ => true

section Steps

variable {t : Token} {ts : List Token} {done : List Outline}

/-- In front of a token that is part of a node there is nothing to pass over. -/
theorem gap_solid (lines : Bool) (ts : List Token) (h : t.shape.isSolid = true) :
    gap lines (t :: ts) = ([], t :: ts) := by
  rw [gap]
  split
  · rename_i hshape
    rw [hshape] at h
    cases h
  · rename_i hshape
    rw [hshape] at h
    cases h
  · rfl

/-- Such a token is what comes next. -/
theorem peek_solid (lines : Bool) (ts : List Token) (h : t.shape.isSolid = true) :
    peek lines (t :: ts) = some t.shape := by
  rw [peek, gap_solid lines ts h]
  rfl

theorem peek_shape (lines : Bool) (ts : List Token) {shape : Shape} (ht : t.shape = shape)
    (h : shape.isSolid = true) : peek lines (t :: ts) = some shape := by
  subst ht
  exact peek_solid lines ts h

/-- **`Ends a b ts`** — what comes next is one of two signs. -/
def Ends (a b : Char) (ts : List Token) : Prop :=
  ∃ t more, ts = t :: more ∧ (t.shape = .sign a ∨ t.shape = .sign b)

/-- What ends a part comes next, whether newlines count or not. -/
theorem Ends.peek {a b : Char} (h : Ends a b ts) (lines : Bool) :
    peek lines ts = some (.sign a) ∨ peek lines ts = some (.sign b) := by
  obtain ⟨t, more, rfl, hshape⟩ := h
  exact hshape.imp (peek_shape lines more · rfl) (peek_shape lines more · rfl)

theorem leaf_eq {shape : Shape} (ht : t.shape = shape) : t.leaf = t.node shape.kind none := by
  rw [Token.leaf, ht]

theorem takeAs_gap {us : List Token} {shape : Shape} (hgap : gap false us = ([], t :: ts))
    (ht : t.shape = shape) (kind : Kind) (role : Option Role) :
    (⟨done, us⟩ : Progress).takeAs shape kind role = some ⟨done ++ [t.node kind role], ts⟩ := by
  rw [Progress.takeAs, hgap]
  dsimp only
  rw [if_pos ht, List.append_nil]

/-- The token that is wanted becomes a child, under the kind and role that it is taken as. -/
theorem takeAs_solid {shape : Shape} (ht : t.shape = shape) (h : shape.isSolid = true) (kind : Kind)
    (role : Option Role) :
    (⟨done, t :: ts⟩ : Progress).takeAs shape kind role = some ⟨done ++ [t.node kind role], ts⟩ :=
  takeAs_gap (gap_solid false ts (ht ▸ h)) ht kind role

theorem take_gap {us : List Token} {shape : Shape} (hgap : gap false us = ([], t :: ts))
    (ht : t.shape = shape) : (⟨done, us⟩ : Progress).take shape = some ⟨done ++ [t.leaf], ts⟩ := by
  rw [Progress.take, takeAs_gap hgap ht, leaf_eq ht]

/-- The same with the kind of its own shape. -/
theorem take_solid {shape : Shape} (ht : t.shape = shape) (h : shape.isSolid = true) :
    (⟨done, t :: ts⟩ : Progress).take shape = some ⟨done ++ [t.leaf], ts⟩ :=
  take_gap (gap_solid false ts (ht ▸ h)) ht

theorem node_gap {read : Reader} {o : Outline} {us rest : List Token}
    (hgap : gap false us = ([], ts)) (hread : read ts = some (o, rest)) :
    (⟨done, us⟩ : Progress).node read = some ⟨done ++ [o], rest⟩ := by
  rw [Progress.node, hgap]
  dsimp only
  rw [hread, Option.map_some, List.append_nil]

/-- The node that is read from the next tokens becomes a child. -/
theorem node_solid {read : Reader} {o : Outline} {rest : List Token} (h : t.shape.isSolid = true)
    (hread : read (t :: ts) = some (o, rest)) :
    (⟨done, t :: ts⟩ : Progress).node read = some ⟨done ++ [o], rest⟩ :=
  node_gap (gap_solid false ts h) hread

/-- A token is never a fault and never a declaration. -/
@[simp]
theorem clean_leaf (t : Token) : Clean t.leaf := by
  refine clean_node ?_ ?_ none t.start t.stop fun _ hc => absurd hc List.not_mem_nil
  · cases t.shape <;> exact fun h => nomatch h
  · cases t.shape <;> rfl

theorem clean_token (t : Token) {kind : Kind} (hfault : kind ≠ .fault) (hspec : isSpec kind = false)
    (role : Option Role) : Clean (t.node kind role) :=
  clean_node hfault hspec role t.start t.stop fun _ hc => absurd hc List.not_mem_nil

end Steps

/-! ## §C The loop over the parts of a body -/

section Items

variable {item : Reader} {closing : Char} {us ts rest : List Token} {t sep : Token} {o : Outline}
  {done : List Outline}

theorem gap_true (ts : List Token) (h : t.shape ≠ .remark) :
    gap true (t :: ts) = ([], t :: ts) := by
  rw [gap]
  split
  · rename_i hshape
    exact absurd hshape h
  · rfl
  · rfl

/-- The loop ends at the closing sign. -/
theorem items_end (n : Nat) (hgap : gap false us = ([], t :: rest)) (ht : t.shape = .sign closing) :
    Progress.items item closing (n + 1) ⟨done, us⟩ = some ⟨done ++ [t.leaf], rest⟩ := by
  have hpeek : peek false us = some (.sign closing) := by
    rw [peek, hgap]
    exact congrArg some ht
  rw [Progress.items, if_pos hpeek, take_gap hgap ht]

/-- The loop takes one part; with a newline or a semicolon behind it, it goes on. -/
theorem items_item (n : Nat) (hgap : gap false us = ([], t :: ts)) (ht : t.shape ≠ .sign closing)
    (hread : item (t :: ts) = some (o, sep :: rest)) (hsep : sep.shape ≠ .remark) :
    Progress.items item closing (n + 1) ⟨done, us⟩ =
      if sep.shape = .newline ∨ sep.shape = .sign ';' then
        Progress.items item closing n ⟨done ++ [o] ++ [sep.leaf], rest⟩
      else (⟨done ++ [o], sep :: rest⟩ : Progress).take (.sign closing) := by
  have hpeek : peek false us ≠ some (.sign closing) := by
    rw [peek, hgap]
    exact fun h => ht (Option.some.inj h)
  rw [Progress.items, if_neg hpeek, node_gap hgap hread, Option.bind_some]
  dsimp only
  rw [gap_true rest hsep]
  dsimp only
  rw [List.append_nil]

end Items

end Plain

end RollCall.Source
