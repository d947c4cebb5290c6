import RollCall.Proofs.Source.Children
import RollCall.Proofs.Source.Remarked

/-!
# RollCall.Proofs.Source.RemarkedReading — reading tokens with comments between them

The direct reader skips comments wherever it looks at the next token, and keeps them as children of
the node that it is in. So a list of tokens with comments put in is read like the list without them,
and the trees are related by `Remarked`.

How places in the one text relate to places in the other is left open: `Move` has one relation for
where tokens start and one for where they stop. A node starts with its first child and stops with
its last, and comments are never first or last, which is what `Framed` says of children.
-/

namespace RollCall.Source.Plain

open RollCall.Text (Spot)

/-! ## §A Tokens with comments put in -/

/-- How places in one text relate to places in another. -/
structure Move where
  begins : Spot → Spot → Prop
  ends : Spot → Spot → Prop

/-- The places of a node. -/
def Move.spots (m : Move) (start stop start' stop' : Spot) : Prop :=
  m.begins start start' ∧ m.ends stop stop'

/-- A token and the one that it becomes. -/
structure Moved (m : Move) (t t' : Token) : Prop where
  shape : t'.shape = t.shape
  spots : m.spots t.start t.stop t'.start t'.stop

/-- **`Grown m ts ts'`** — the second list is the first with comments put in. -/
inductive Grown (m : Move) : List Token → List Token → Prop
  | nil : Grown m [] []
  | cons {t t' : Token} {ts ts' : List Token} :
      Moved m t t' → Grown m ts ts' → Grown m (t :: ts) (t' :: ts')
  | remark {t : Token} {ts ts' : List Token} :
      t.shape = .remark → Grown m ts ts' → Grown m ts (t :: ts')

/-- **`Aligned m lines ts ts'`** — both lists are at the end, or at tokens that correspond and are
neither comments nor, unless `lines` says otherwise, newlines. -/
inductive Aligned (m : Move) (lines : Bool) : List Token → List Token → Prop
  | nil : Aligned m lines [] []
  | cons {t t' : Token} {ts ts' : List Token} :
      t.shape.isSolid = true ∨ lines = true ∧ t.shape = .newline → Moved m t t' → Grown m ts ts' →
        Aligned m lines (t :: ts) (t' :: ts')

section Tokens

variable {m : Move} {t t' : Token} {ts ts' : List Token}

theorem Grown.length_le (h : Grown m ts ts') : ts.length ≤ ts'.length := by
  induction h with
  | nil => exact Nat.le_refl _
  | cons _ _ ih => exact Nat.succ_le_succ ih
  | remark _ _ ih => exact Nat.le_succ_of_le ih

/-- A token that moved is the same node. -/
theorem Moved.node (h : Moved m t t') (kind : Kind) (role : Option Role) :
    Remarked m.spots (t.node kind role) (t'.node kind role) :=
  .node h.spots .nil

theorem Moved.leaf (h : Moved m t t') : Remarked m.spots t.leaf t'.leaf := by
  rw [Token.leaf, Token.leaf, h.shape]
  exact h.node _ _

theorem isRemark_leaf (h : t.shape = .remark) : IsRemark t.leaf := by
  rw [leaf_eq h]
  exact ⟨rfl, rfl, rfl⟩

/-- The same comes next, and the comments in front of it are those that were there and more. -/
theorem Grown.gap_aligned (lines : Bool) (h : Grown m ts ts') :
    Threaded (Remarked m.spots) (gap lines ts).1 (gap lines ts').1 ∧
      Aligned m lines (gap lines ts).2 (gap lines ts').2 := by
  induction h with
  | nil => exact ⟨.nil, .nil⟩
  | @cons t t' ts ts' ht hts ih =>
      rw [gap, gap, ht.shape]
      cases hshape : t.shape with
      | remark => exact ⟨.cons ht.leaf ih.1, ih.2⟩
      | newline =>
          cases lines with
          | true => exact ⟨.nil, .cons (.inr ⟨rfl, hshape⟩) ht hts⟩
          | false => exact ih
      | _ => exact ⟨.nil, .cons (.inl (by rw [hshape]; rfl)) ht hts⟩
  | @remark t ts ts' ht _ ih =>
      rw [show gap lines (t :: ts') = (t.leaf :: (gap lines ts').1,
        (gap lines ts').2) by rw [gap, ht]]
      exact ⟨.remark (isRemark_leaf ht) ih.1, ih.2⟩

theorem Aligned.head? {lines : Bool} (h : Aligned m lines ts ts') :
    ts'.head?.map Token.shape = ts.head?.map Token.shape := by
  cases h with
  | nil => rfl
  | cons _ ht _ => exact congrArg some ht.shape

/-- Comments do not change what comes next. -/
theorem Grown.peek_eq (lines : Bool) (h : Grown m ts ts') : peek lines ts' = peek lines ts :=
  (h.gap_aligned lines).2.head?

end Tokens

/-! ## §B Children -/

/-- **`Lifts R x x'`** — if there is a first result, there is a second one that is related. -/
def Lifts {α β : Type} (R : α → β → Prop) (x : Option α) (x' : Option β) : Prop :=
  ∀ a, x = some a → ∃ b, x' = some b ∧ R a b

namespace Lifts

variable {α β γ δ : Type} {R : α → β → Prop} {S : γ → δ → Prop}

theorem none {x : Option β} : Lifts R none x := fun _ h => by cases h

theorem some {a : α} {b : β} (h : R a b) : Lifts R (some a) (some b) := by
  intro c hc
  cases hc
  exact ⟨b, rfl, h⟩

theorem imp {R' : α → β → Prop} {x : Option α} {x' : Option β} (h : Lifts R x x')
    (hR : ∀ a b, R a b → R' a b) : Lifts R' x x' := by
  intro a ha
  obtain ⟨b, hb, hab⟩ := h a ha
  exact ⟨b, hb, hR a b hab⟩

/-- Results that lift can be used one after the other. -/
theorem bind {x : Option α} {x' : Option β} {f : α → Option γ} {f' : β → Option δ}
    (h : Lifts R x x') (hf : ∀ a b, R a b → Lifts S (f a) (f' b)) :
    Lifts S (x.bind f) (x'.bind f') := by
  intro c hc
  obtain ⟨a, ha, hfa⟩ := Option.bind_eq_some_iff.mp hc
  obtain ⟨b, hb, hab⟩ := h a ha
  rw [hb]
  exact hf a b hab c hfa

theorem map {x : Option α} {x' : Option β} {f : α → γ} {f' : β → δ} (h : Lifts R x x')
    (hf : ∀ a b, R a b → S (f a) (f' b)) : Lifts S (x.map f) (x'.map f') := by
  intro c hc
  obtain ⟨a, ha, rfl⟩ := Option.map_eq_some_iff.mp hc
  obtain ⟨b, hb, hab⟩ := h a ha
  exact ⟨f' b, by rw [hb, Option.map_some], hf a b hab⟩

end Lifts

/-- **`Framed m as bs`** — children with comments put in between them. -/
structure Framed (m : Move) (as bs : List Outline) : Prop where
  threaded : Threaded (Remarked m.spots) as bs
  first : ∃ a b, as.head? = some a ∧ bs.head? = some b ∧ m.begins a.start b.start
  last : ∃ a b, as.getLast? = some a ∧ bs.getLast? = some b ∧ m.ends a.stop b.stop

/-- **`Ended m as bs`** — further children with comments put in in front of them. -/
structure Ended (m : Move) (as bs : List Outline) : Prop where
  threaded : Threaded (Remarked m.spots) as bs
  last : ∃ a b, as.getLast? = some a ∧ bs.getLast? = some b ∧ m.ends a.stop b.stop

section Children

variable {m : Move} {as bs cs ds : List Outline} {a b : Outline}

theorem framed_singleton (h : Remarked m.spots a b) : Framed m [a] [b] :=
  ⟨.cons h .nil, ⟨a, b, rfl, rfl, h.spots.1⟩, ⟨a, b, rfl, rfl, h.spots.2⟩⟩

theorem ended_concat (h : Threaded (Remarked m.spots) as bs) (hab : Remarked m.spots a b) :
    Ended m (as ++ [a]) (bs ++ [b]) :=
  ⟨h.append (.cons hab .nil), a, b, List.getLast?_concat, List.getLast?_concat, hab.spots.2⟩

theorem getLast?_append_of_some {as cs : List Outline} (h : cs.getLast? = some a) :
    (as ++ cs).getLast? = some a := by
  rw [List.getLast?_append, h, Option.some_or]

/-- Children in front do not change that two lists end alike. -/
theorem Ended.append (h : Threaded (Remarked m.spots) as bs) (h' : Ended m cs ds) :
    Ended m (as ++ cs) (bs ++ ds) := by
  obtain ⟨hthreaded, a, b, ha, hb, hstop⟩ := h'
  exact ⟨h.append hthreaded, a, b, getLast?_append_of_some ha, getLast?_append_of_some hb, hstop⟩

theorem Framed.cons (hab : Remarked m.spots a b) (h : Ended m as bs) :
    Framed m (a :: as) (b :: bs) := by
  obtain ⟨hthreaded, hlast⟩ := h.append (.cons hab .nil)
  exact ⟨hthreaded, ⟨a, b, rfl, rfl, hab.spots.1⟩, hlast⟩

/-- Children behind do not change that two lists start alike. -/
theorem Framed.append (h : Framed m as bs) (h' : Ended m cs ds) :
    Framed m (as ++ cs) (bs ++ ds) := by
  obtain ⟨hthreaded, ⟨a, b, ha, hb, hstart⟩, -⟩ := h
  obtain ⟨hall, hlast⟩ := Ended.append hthreaded h'
  refine ⟨hall, ⟨a, b, ?_, ?_, hstart⟩, hlast⟩
  · rw [List.head?_append, ha, Option.some_or]
  · rw [List.head?_append, hb, Option.some_or]

/-- A node goes from its first child to its last. -/
theorem Framed.ofChildren (h : Framed m as bs) (kind : Kind) (role : Option Role) :
    Remarked m.spots (.ofChildren kind role as) (.ofChildren kind role bs) := by
  obtain ⟨hthreaded, ⟨a, b, ha, hb, hstart⟩, ⟨c, d, hc, hd, hstop⟩⟩ := h
  obtain ⟨as, rfl⟩ := List.head?_eq_some_iff.mp ha
  obtain ⟨bs, rfl⟩ := List.head?_eq_some_iff.mp hb
  unfold Outline.ofChildren
  rw [hc, hd]
  exact .node ⟨hstart, hstop⟩ hthreaded

end Children

/-! ## §C Steps of a reader -/

/-- A node and the tokens behind it. -/
def ReadsAlike (m : Move) (x x' : Outline × List Token) : Prop :=
  Remarked m.spots x.1 x'.1 ∧ Grown m x.2 x'.2

/-- **`Follows m read read'`** — what the first reader reads from tokens, the second reads from the
same tokens with comments put in behind the first of them. -/
structure Follows (m : Move) (read read' : Reader) : Prop where
  nil : read [] = none
  cons {t t' : Token} {ts ts' : List Token} : Moved m t t' → t.shape.isSolid = true →
    Grown m ts ts' → Lifts (ReadsAlike m) (read (t :: ts)) (read' (t' :: ts'))

/-- **`Adds m p p' q q'`** — both add children that end alike, and leave the same tokens. -/
structure Adds (m : Move) (p p' q q' : Progress) : Prop where
  done : ∃ as bs, q.done = p.done ++ as ∧ q'.done = p'.done ++ bs ∧ Ended m as bs
  rest : Grown m q.rest q'.rest

/-- **`Keeps m p p'`** — the same children, and the same tokens behind them. -/
structure Keeps (m : Move) (p p' : Progress) : Prop where
  done : Framed m p.done p'.done
  rest : Grown m p.rest p'.rest

section Steps

variable {m : Move} {p p' q q' : Progress} {read read' : Reader} {t t' : Token}
  {ts ts' : List Token}

theorem Grown.exists_gap (lines : Bool) (h : Grown m ts ts') :
    ∃ rs us rs' us', gap lines ts = (rs, us) ∧ gap lines ts' = (rs', us') ∧
      Threaded (Remarked m.spots) rs rs' ∧ Aligned m lines us us' :=
  ⟨_, _, _, _, rfl, rfl, h.gap_aligned lines⟩

/-- Taking a token adds it, with the comments in front of it. -/
theorem adds_takeAs (h : Grown m p.rest p'.rest) (shape : Shape) (kind : Kind)
    (role : Option Role) :
    Lifts (Adds m p p') (p.takeAs shape kind role) (p'.takeAs shape kind role) := by
  obtain ⟨rs, us, rs', us', hgap, hgap', hremarks, haligned⟩ := h.exists_gap false
  rw [Progress.takeAs, Progress.takeAs, hgap, hgap']
  cases haligned with
  | nil => exact .none
  | cons _ ht hts =>
      dsimp only
      rw [ht.shape]
      split
      · refine .some ⟨⟨_, _, ?_, ?_, ended_concat hremarks (ht.node kind role)⟩, hts⟩
        · exact List.append_assoc _ _ _
        · exact List.append_assoc _ _ _
      · exact .none

/-- Reading a node adds it, with the comments in front of it. -/
theorem adds_node (hread : Follows m read read') (h : Grown m p.rest p'.rest) :
    Lifts (Adds m p p') (p.node read) (p'.node read') := by
  obtain ⟨rs, us, rs', us', hgap, hgap', hremarks, haligned⟩ := h.exists_gap false
  rw [Progress.node, Progress.node, hgap, hgap']
  dsimp only
  cases haligned with
  | nil =>
      rw [hread.nil]
      exact .none
  | cons hshape ht hts =>
      have hsolid := hshape.resolve_right fun hline => Bool.false_ne_true hline.1
      refine (hread.cons ht hsolid hts).map fun x x' hx => ?_
      refine ⟨⟨_, _, ?_, ?_, ended_concat hremarks hx.1⟩, hx.2⟩
      · exact List.append_assoc _ _ _
      · exact List.append_assoc _ _ _

/-- The next token, behind any children. -/
theorem ended_take {done done' : List Outline} (hdone : Threaded (Remarked m.spots) done done')
    (hts : Grown m ts ts') (shape : Shape) :
    Lifts (fun q q' => Ended m q.done q'.done ∧ Grown m q.rest q'.rest)
      ((⟨done, ts⟩ : Progress).take shape) ((⟨done', ts'⟩ : Progress).take shape) := by
  have htake : Lifts (Adds m ⟨done, ts⟩ ⟨done', ts'⟩) ((⟨done, ts⟩ : Progress).take shape)
      ((⟨done', ts'⟩ : Progress).take shape) := adds_takeAs hts _ _ _
  refine htake.imp fun q q' hq => ⟨?_, hq.rest⟩
  obtain ⟨as, bs, ha, hb, hended⟩ := hq.done
  rw [ha, hb]
  exact Ended.append hdone hended

theorem Keeps.adds (h : Keeps m p p') (hq : Adds m p p' q q') : Keeps m q q' := by
  obtain ⟨⟨as, bs, ha, hb, hended⟩, hrest⟩ := hq
  refine ⟨?_, hrest⟩
  rw [ha, hb]
  exact h.done.append hended

theorem Keeps.takeAs (h : Keeps m p p') (shape : Shape) (kind : Kind) (role : Option Role) :
    Lifts (Keeps m) (p.takeAs shape kind role) (p'.takeAs shape kind role) :=
  (adds_takeAs h.rest shape kind role).imp fun _ _ hq => h.adds hq

/-- Readers that have the same children take the same token. -/
theorem Keeps.take (h : Keeps m p p') (shape : Shape) :
    Lifts (Keeps m) (p.take shape) (p'.take shape) :=
  h.takeAs shape shape.kind none

/-- They also read the same node, if the readers of the node follow one another. -/
theorem Keeps.node (h : Keeps m p p') (hread : Follows m read read') :
    Lifts (Keeps m) (p.node read) (p'.node read') :=
  (adds_node hread h.rest).imp fun _ _ hq => h.adds hq

/-- Closing both gives the same node, with the same tokens behind it. -/
theorem Keeps.close (h : Keeps m p p') (kind : Kind) (role : Option Role) :
    ReadsAlike m (p.close kind role) (p'.close kind role) :=
  ⟨h.done.ofChildren kind role, h.rest⟩

/-- A reader has taken its first token. -/
theorem keeps_node (ht : Moved m t t') (hts : Grown m ts ts') (kind : Kind) (role : Option Role) :
    Keeps m ⟨[t.node kind role], ts⟩ ⟨[t'.node kind role], ts'⟩ :=
  ⟨framed_singleton (ht.node kind role), hts⟩

theorem keeps_leaf (ht : Moved m t t') (hts : Grown m ts ts') :
    Keeps m ⟨[t.leaf], ts⟩ ⟨[t'.leaf], ts'⟩ :=
  ⟨framed_singleton ht.leaf, hts⟩

/-- A node whose first child is a node. -/
theorem keeps_only (hread : Follows m read read') (ht : Moved m t t')
    (hsolid : t.shape.isSolid = true) (hts : Grown m ts ts') :
    Lifts (Keeps m) ((⟨[], t :: ts⟩ : Progress).node read)
      ((⟨[], t' :: ts'⟩ : Progress).node read') := by
  rw [Progress.node, Progress.node, gap_solid false ts hsolid,
    gap_solid false ts' (ht.shape ▸ hsolid)]
  exact (hread.cons ht hsolid hts).map fun x x' hx => ⟨framed_singleton hx.1, hx.2⟩

/-- The loop over the parts of a body. -/
theorem Keeps.items {item item' : Reader} (hitem : Follows m item item') (closing : Char)
    {fuel fuel' : Nat} (hfuel : fuel ≤ fuel') (h : Keeps m p p') :
    Lifts (Keeps m) (Progress.items item closing fuel p)
      (Progress.items item' closing fuel' p') := by
  induction fuel generalizing fuel' p p' with
  | zero => exact .none
  | succ fuel ih =>
      obtain ⟨fuel', rfl⟩ := Nat.exists_eq_add_of_le' (Nat.le_trans (Nat.succ_pos fuel) hfuel)
      rw [Progress.items, Progress.items, h.rest.peek_eq]
      split
      · exact h.take _
      refine (h.node hitem).bind fun q q' hq => ?_
      obtain ⟨rs, us, rs', us', hgap, hgap', hremarks, haligned⟩ := hq.rest.exists_gap true
      rw [hgap, hgap']
      cases haligned with
      | nil => exact .none
      | cons _ ht hts =>
          dsimp only
          rw [ht.shape]
          split
          · -- a newline or a semicolon, and more items
            refine ih (Nat.le_of_succ_le_succ hfuel) ⟨?_, hts⟩
            rw [List.append_assoc, List.append_assoc]
            exact hq.done.append (ended_concat hremarks ht.leaf)
          · exact hq.take _

theorem Keeps.allItems {item item' : Reader} (hitem : Follows m item item') (closing : Char)
    (h : Keeps m p p') : Lifts (Keeps m) (p.allItems item closing) (p'.allItems item' closing) :=
  h.items hitem closing (Nat.succ_le_succ h.rest.length_le)

/-- Names of types are read as the same names, whatever comments are put in. -/
theorem follows_typeName (m : Move) (lines : Bool) (role : Option Role) :
    Follows m (typeName lines role) (typeName lines role) := by
  refine ⟨rfl, fun {t t' ts ts'} ht _ hts => ?_⟩
  rw [typeName, typeName, ht.shape, hts.peek_eq]
  split
  · split
    · refine ((keeps_node ht hts .packageName none).take _).bind fun p p' hp => ?_
      refine (hp.takeAs _ _ _).bind fun q q' hq => ?_
      exact .some (hq.close _ _)
    · exact .some ⟨ht.node _ _, hts⟩
  · exact .none

end Steps

/-! ## §D Parameters -/

/-- Types are read alike, whatever they are for. -/
def TypeFollows (m : Move) (type type' : TypeReader) : Prop :=
  ∀ lines role, Follows m (type lines role) (type' lines role)

/-- An entry of a parameter list and the one that it becomes. -/
inductive EntryAlike (m : Move) : Entry → Entry → Prop
  | bare {t t' : Token} : Moved m t t' → EntryAlike m (.bare t) (.bare t')
  | typed {names : Nat} {as bs : List Outline} :
      Framed m as bs → EntryAlike m (.typed names as) (.typed names bs)
  | whole {o o' : Outline} : Remarked m.spots o o' → EntryAlike m (.whole o) (.whole o')

/-- An entry with what stands in front of it. -/
structure PlacedAlike (m : Move) (x x' : List Outline × Entry) : Prop where
  between : Threaded (Remarked m.spots) x.1 x'.1
  entry : EntryAlike m x.2 x'.2

section Parameters

variable {m : Move} {type type' : TypeReader} {t t' : Token} {ts ts' : List Token}
  {es es' : List (List Outline × Entry)}

theorem lifts_entry (htype : TypeFollows m type type') (ht : Moved m t t')
    (hsolid : t.shape.isSolid = true) (hts : Grown m ts ts') :
    Lifts (fun x x' => EntryAlike m x.1 x'.1 ∧ Grown m x.2 x'.2) (entry type (t :: ts))
      (entry type' (t' :: ts')) := by
  have hleaf := keeps_leaf ht hts
  have hvariadic : ∀ {p p' : Progress}, Keeps m p p' →
      Lifts (fun x x' => EntryAlike m x.1 x'.1 ∧ Grown m x.2 x'.2)
        ((p.node (type false (some .type))).bind fun p =>
          some (Entry.whole (p.close .variadicParameter none).1, p.rest))
        ((p'.node (type' false (some .type))).bind fun p =>
          some (Entry.whole (p.close .variadicParameter none).1, p.rest)) := by
    intro p p' hp
    refine (hp.node (htype _ _)).bind fun q q' hq => .some ?_
    exact ⟨.whole (hq.close _ _).1, hq.rest⟩
  have halone : Lifts (fun x x' => EntryAlike m x.1 x'.1 ∧ Grown m x.2 x'.2)
      ((type false (some .type) (t :: ts)).map fun x =>
        (Entry.whole (.ofChildren .parameter none [x.1]), x.2))
      ((type' false (some .type) (t' :: ts')).map fun x =>
        (Entry.whole (.ofChildren .parameter none [x.1]), x.2)) :=
    ((htype _ _).cons ht hsolid hts).map fun x x' hx =>
      ⟨.whole ((framed_singleton hx.1).ofChildren _ _), hx.2⟩
  rw [entry, entry, ht.shape, hts.peek_eq]
  cases t.shape with
  | dots => exact hvariadic hleaf
  | name =>
      dsimp only
      generalize peek false ts = next
      split
      · exact .some ⟨.bare ht, hts⟩
      · exact .some ⟨.bare ht, hts⟩
      · exact halone
      · exact (hleaf.take .dots).bind fun p p' hp => hvariadic hp
      · -- anything else is the type of the name
        refine (hleaf.node (htype _ _)).map fun p p' hp => ?_
        exact ⟨.typed hp.done, hp.rest⟩
  | _ => exact halone

/-- Names without a type take part in what follows them, or are types, in the same way. -/
theorem placedAlike_joined (h : List.Forall₂ (PlacedAlike m) es es') :
    List.Forall₂ (PlacedAlike m) (joined es) (joined es') := by
  induction h with
  | nil => exact .nil
  | @cons x x' es es' hx _ ih =>
      obtain ⟨between, e⟩ := x
      obtain ⟨between', e'⟩ := x'
      obtain ⟨hbetween, hentry⟩ := hx
      cases hentry with
      | @bare t t' ht =>
          have halone : List.Forall₂ (PlacedAlike m)
              ((between, .whole (.ofChildren .parameter none [t.node .typeName (some .type)])) ::
                joined es)
              ((between', .whole (.ofChildren .parameter none [t'.node .typeName (some .type)])) ::
                joined es') :=
            .cons ⟨hbetween, .whole ((framed_singleton (ht.node _ _)).ofChildren _ _)⟩ ih
          -- the name joins the entry behind it, which is the same in both lists
          rw [joined, joined]
          generalize joined es = rest at ih halone ⊢
          generalize joined es' = rest' at ih halone ⊢
          cases ih with
          | nil => exact halone
          | @cons y y' later later' hy hlater =>
              obtain ⟨next, e⟩ := y
              obtain ⟨next', e'⟩ := y'
              obtain ⟨hnext, hnextEntry⟩ := hy
              cases hnextEntry with
              | typed hchildren =>
                  dsimp only
                  split
                  · refine .cons ⟨hbetween, .typed ?_⟩ hlater
                    have hended : Ended m _ _ := ⟨hchildren.threaded, hchildren.last⟩
                    exact Framed.cons ht.leaf (Ended.append hnext hended)
                  · exact halone
              | _ => exact halone
      | typed hchildren => exact .cons ⟨hbetween, .typed hchildren⟩ ih
      | whole ho => exact .cons ⟨hbetween, .whole ho⟩ ih

theorem EntryAlike.outline {e e' : Entry} (h : EntryAlike m e e') :
    Remarked m.spots e.outline e'.outline := by
  cases h with
  | bare ht => exact ht.leaf
  | typed hchildren => exact hchildren.ofChildren _ _
  | whole ho => exact ho

theorem threaded_placed (h : List.Forall₂ (PlacedAlike m) es es') :
    Threaded (Remarked m.spots) (es.flatMap fun (between, e) => between ++ [e.outline])
      (es'.flatMap fun (between, e) => between ++ [e.outline]) := by
  induction h with
  | nil => exact .nil
  | cons hx _ ih =>
      rw [List.flatMap_cons, List.flatMap_cons]
      exact (hx.between.append (.cons hx.entry.outline .nil)).append ih

/-- The entries of a list, and the bracket that closes it. -/
structure ListAlike (m : Move) (x x' : List (List Outline × Entry) × Progress) : Prop where
  entries : List.Forall₂ (PlacedAlike m) x.1 x'.1
  done : Ended m x.2.done x'.2.done
  rest : Grown m x.2.rest x'.2.rest

theorem lifts_entries (htype : TypeFollows m type type') {fuel fuel' : Nat} (hfuel : fuel ≤ fuel')
    {between between' : List Outline} (hbetween : Threaded (Remarked m.spots) between between')
    (hts : Grown m ts ts') :
    Lifts (ListAlike m) (entries type fuel between ts) (entries type' fuel' between' ts') := by
  induction fuel generalizing fuel' between between' ts ts' with
  | zero => exact .none
  | succ fuel ih =>
      obtain ⟨fuel', rfl⟩ := Nat.exists_eq_add_of_le' (Nat.le_trans (Nat.succ_pos fuel) hfuel)
      obtain ⟨rs, us, rs', us', hgap, hgap', hremarks, haligned⟩ := hts.exists_gap false
      have hhere := hbetween.append hremarks
      rw [entries, entries, hgap, hgap']
      dsimp only
      rw [haligned.head?]
      cases haligned with
      | nil => exact .none
      | @cons t t' us us' hshape ht hus =>
          have hsolid := hshape.resolve_right fun hline => Bool.false_ne_true hline.1
          split
          · -- the bracket that closes the list
            refine (ended_take hhere (.cons ht hus) _).map fun q q' hq => ?_
            exact ⟨.nil, hq.1, hq.2⟩
          · refine (lifts_entry htype ht hsolid hus).bind fun x x' hx => ?_
            have hplaced : PlacedAlike m (between ++ rs, x.1) (between' ++ rs', x'.1) :=
              ⟨hhere, hx.1⟩
            rw [hx.2.peek_eq]
            split
            · -- the comma stands in front of the entries behind it
              refine (ended_take .nil hx.2 _).bind fun q q' hq => ?_
              refine (ih (Nat.le_of_succ_le_succ hfuel) hq.1.threaded hq.2).map fun y y' hy => ?_
              exact ⟨.cons hplaced hy.entries, hy.done, hy.rest⟩
            · refine (ended_take .nil hx.2 _).map fun q q' hq => ?_
              exact ⟨.cons hplaced .nil, hq.1, hq.2⟩

/-- So are lists of parameters, if types are. -/
theorem follows_parameters (htype : TypeFollows m type type') (role : Option Role) :
    Follows m (parameters type role) (parameters type' role) := by
  refine ⟨rfl, fun {t t' ts ts'} ht _ hts => ?_⟩
  rw [parameters, parameters, ht.shape]
  split
  · refine (lifts_entries htype (Nat.succ_le_succ hts.length_le) .nil hts).map fun x x' hx => ?_
    obtain ⟨es, p⟩ := x
    obtain ⟨es', p'⟩ := x'
    refine ⟨?_, hx.rest⟩
    dsimp only
    refine Framed.ofChildren ?_ _ _
    have hinner := threaded_placed (placedAlike_joined hx.entries)
    exact Framed.cons ht.leaf (Ended.append hinner hx.done)
  · exact .none

theorem Keeps.result {p p' : Progress} (h : Keeps m p p') (htype : TypeFollows m type type')
    (lines : Bool) : Lifts (Keeps m) (p.result type lines) (p'.result type' lines) := by
  rw [Progress.result, Progress.result, h.rest.peek_eq]
  split
  · exact .some h
  · split
    · exact h.node (follows_parameters htype _)
    · split
      · exact h.node (htype _ _)
      · exact .some h

end Parameters

/-! ## §E Fields, elements and types -/

section Types

variable {m : Move} {type type' : TypeReader}

theorem Keeps.moreNames {p p' : Progress} {fuel fuel' : Nat} (hfuel : fuel ≤ fuel')
    (h : Keeps m p p') :
    Lifts (Keeps m) (Progress.moreNames fuel p) (Progress.moreNames fuel' p') := by
  induction fuel generalizing fuel' p p' with
  | zero => exact .none
  | succ fuel ih =>
      obtain ⟨fuel', rfl⟩ := Nat.exists_eq_add_of_le' (Nat.le_trans (Nat.succ_pos fuel) hfuel)
      rw [Progress.moreNames, Progress.moreNames, h.rest.peek_eq]
      split
      · refine (h.take _).bind fun q q' hq => ?_
        exact (hq.takeAs _ _ _).bind fun r r' hr => ih (Nat.le_of_succ_le_succ hfuel) hr
      · exact .some h

/-- So are fields. -/
theorem follows_field (htype : TypeFollows m type type') :
    Follows m (field type) (field type') := by
  refine ⟨rfl, fun {t t' ts ts'} ht hsolid hts => ?_⟩
  have hfirst := keeps_node ht hts .fieldName none
  have hnamed : ∀ {p p' : Progress}, Keeps m p p' → Lifts (ReadsAlike m)
      ((p.node (type true (some .type))).map (Progress.close · .field none))
      ((p'.node (type' true (some .type))).map (Progress.close · .field none)) :=
    fun hp => (hp.node (htype _ _)).map fun q q' hq => hq.close _ _
  rw [field, field, ht.shape, hts.peek_eq]
  split
  · refine ((keeps_leaf ht hts).node (follows_typeName m _ _)).map fun q q' hq => ?_
    exact hq.close _ _
  · generalize peek true ts = next
    split
    · refine (hfirst.moreNames (Nat.succ_le_succ hts.length_le)).bind fun q q' hq => hnamed hq
    · split
      · exact hnamed hfirst
      · refine (keeps_only (follows_typeName m _ _) ht hsolid hts).map fun q q' hq => ?_
        exact hq.close _ _
    · exact .none
  · exact .none

theorem follows_fields (htype : TypeFollows m type type') :
    Follows m (fields type) (fields type') := by
  refine ⟨rfl, fun {t t' ts ts'} ht _ hts => ?_⟩
  rw [fields, fields, ht.shape]
  split
  · refine ((keeps_leaf ht hts).allItems (follows_field htype) _).map fun q q' hq => ?_
    exact hq.close _ _
  · exact .none

/-- And so are the elements of interfaces. -/
theorem follows_element (htype : TypeFollows m type type') :
    Follows m (element type) (element type') := by
  refine ⟨rfl, fun {t t' ts ts'} ht hsolid hts => ?_⟩
  rw [element, element, ht.shape, hts.peek_eq]
  split
  · refine ((keeps_node ht hts _ _).node (follows_parameters htype _)).bind fun p p' hp => ?_
    refine (hp.result htype _).bind fun q q' hq => ?_
    exact .some (hq.close _ _)
  · refine (keeps_only (follows_typeName m _ _) ht hsolid hts).map fun q q' hq => ?_
    exact hq.close _ _

end Types

/-- Types with comments put in are read like types without them. -/
theorem typeFollows_type (m : Move) {fuel fuel' : Nat} (hfuel : fuel ≤ fuel') :
    TypeFollows m (type fuel) (type fuel') := by
  induction fuel generalizing fuel' with
  | zero => exact fun lines role => ⟨rfl, fun _ _ _ => .none⟩
  | succ fuel ih =>
      obtain ⟨fuel', rfl⟩ := Nat.exists_eq_add_of_le' (Nat.le_trans (Nat.succ_pos fuel) hfuel)
      have hinner : TypeFollows m (type fuel) (type fuel') := ih (Nat.le_of_succ_le_succ hfuel)
      refine fun lines role => ⟨rfl, fun {t t' ts ts'} ht hsolid hts => ?_⟩
      have hleaf := keeps_leaf ht hts
      rw [type, type, ht.shape, hts.peek_eq]
      split
      · exact (follows_typeName m lines role).cons ht hsolid hts
      · -- a pointer
        refine (hleaf.node (hinner _ _)).bind fun p p' hp => ?_
        exact .some (hp.close _ _)
      · -- a type in brackets
        refine (hleaf.node (hinner _ _)).bind fun p p' hp => ?_
        refine (hp.take _).bind fun q q' hq => ?_
        exact .some (hq.close _ _)
      · split
        · -- an array
          refine (hleaf.takeAs _ _ _).bind fun p p' hp => ?_
          refine (hp.take _).bind fun q q' hq => ?_
          refine (hq.node (hinner _ _)).bind fun r r' hr => ?_
          exact .some (hr.close _ _)
        · -- a slice
          refine (hleaf.take _).bind fun p p' hp => ?_
          refine (hp.node (hinner _ _)).bind fun q q' hq => ?_
          exact .some (hq.close _ _)
      · -- a map
        refine (hleaf.take _).bind fun p p' hp => ?_
        refine (hp.node (hinner _ _)).bind fun q q' hq => ?_
        refine (hq.take _).bind fun r r' hr => ?_
        refine (hr.node (hinner _ _)).bind fun u u' hu => ?_
        exact .some (hu.close _ _)
      · -- a channel
        refine (hleaf.node (hinner _ _)).bind fun p p' hp => ?_
        exact .some (hp.close _ _)
      · -- a struct
        refine (hleaf.node (follows_fields hinner)).bind fun p p' hp => ?_
        exact .some (hp.close _ _)
      · -- an interface
        refine (hleaf.take _).bind fun p p' hp => ?_
        refine (hp.allItems (follows_element hinner) _).bind fun q q' hq => ?_
        exact .some (hq.close _ _)
      · -- a function
        refine (hleaf.node (follows_parameters hinner _)).bind fun p p' hp => ?_
        refine (hp.result hinner _).bind fun q q' hq => ?_
        exact .some (hq.close _ _)
      · exact .none

/-! ## §F Files -/

theorem follows_typeSpec (m : Move) {depth depth' : Nat} (hdepth : depth ≤ depth') :
    Follows m (typeSpec depth) (typeSpec depth') := by
  have htype := typeFollows_type m hdepth
  refine ⟨rfl, fun {t t' ts ts'} ht _ hts => ?_⟩
  have hfirst := keeps_node ht hts .typeName none
  rw [typeSpec, typeSpec, ht.shape, hts.peek_eq]
  split
  · dsimp only
    split
    · refine (hfirst.take _).bind fun p p' hp => ?_
      refine (hp.node (htype _ _)).bind fun q q' hq => ?_
      exact .some (hq.close _ _)
    · refine (hfirst.node (htype _ _)).bind fun p p' hp => ?_
      exact .some (hp.close _ _)
  · exact .none

theorem follows_typeDeclaration (m : Move) {depth depth' : Nat} (hdepth : depth ≤ depth') :
    Follows m (typeDeclaration depth) (typeDeclaration depth') := by
  have hspec := follows_typeSpec m hdepth
  refine ⟨rfl, fun {t t' ts ts'} ht _ hts => ?_⟩
  have hleaf := keeps_leaf ht hts
  rw [typeDeclaration, typeDeclaration, hts.peek_eq]
  split
  · refine Lifts.map (R := Keeps m) ?_ fun q q' hq => hq.close _ _
    exact (hleaf.take _).bind fun p p' hp => hp.allItems hspec _
  · exact (hleaf.node hspec).map fun q q' hq => hq.close _ _

theorem follows_packageClause (m : Move) : Follows m packageClause packageClause := by
  refine ⟨rfl, fun {t t' ts ts'} ht _ hts => ?_⟩
  rw [packageClause, packageClause]
  exact ((keeps_leaf ht hts).takeAs _ _ _).map fun q q' hq => hq.close _ _

section Files

variable {m : Move} {p p' : Progress}

/-- **`Strung m p p'`** — the same children with comments put in anywhere, and the same tokens
behind them. -/
structure Strung (m : Move) (p p' : Progress) : Prop where
  done : Threaded (Remarked m.spots) p.done p'.done
  rest : Grown m p.rest p'.rest

theorem Strung.node {read read' : Reader} (h : Strung m p p') (hread : Follows m read read') :
    Lifts (Strung m) (p.node read) (p'.node read') := by
  refine (adds_node hread h.rest).imp fun q q' hq => ⟨?_, hq.rest⟩
  obtain ⟨as, bs, ha, hb, hended⟩ := hq.done
  rw [ha, hb]
  exact h.done.append hended.threaded

theorem Strung.behind {next next' : Progress → Option (List Outline)}
    (hnext : ∀ {q q' : Progress}, Strung m q q' →
      Lifts (Threaded (Remarked m.spots)) (next q) (next' q'))
    (marksEnd : Bool) (h : Strung m p p') :
    Lifts (Threaded (Remarked m.spots)) (behind next marksEnd p) (behind next' marksEnd p') := by
  obtain ⟨rs, us, rs', us', hgap, hgap', hremarks, haligned⟩ := h.rest.exists_gap true
  have hdone := h.done.append hremarks
  rw [Plain.behind, Plain.behind, hgap, hgap']
  cases haligned with
  | nil => exact .none
  | cons _ ht hts =>
      dsimp only
      rw [ht.shape]
      have hmarked := hdone.append (.cons ht.leaf .nil)
      split
      · exact hnext ⟨hmarked, hts⟩
      · split
        · cases marksEnd with
          | true => exact .some hmarked
          | false => exact .some hdone
        · exact .none

theorem Strung.declarations {depth depth' fuel fuel' : Nat} (hdepth : depth ≤ depth')
    (hfuel : fuel ≤ fuel') (h : Strung m p p') :
    Lifts (Threaded (Remarked m.spots)) (declarations depth fuel p)
      (declarations depth' fuel' p') := by
  induction fuel generalizing fuel' p p' with
  | zero => exact .none
  | succ fuel ih =>
      obtain ⟨fuel', rfl⟩ := Nat.exists_eq_add_of_le' (Nat.le_trans (Nat.succ_pos fuel) hfuel)
      have hnext : ∀ {q q' : Progress}, Strung m q q' → Lifts (Threaded (Remarked m.spots))
          (Plain.declarations depth fuel q) (Plain.declarations depth' fuel' q') :=
        fun hq => ih (Nat.le_of_succ_le_succ hfuel) hq
      rw [Plain.declarations, Plain.declarations, h.rest.peek_eq]
      split
      · exact .some (h.done.append (h.rest.gap_aligned false).1)
      · exact (h.node (follows_packageClause m)).bind fun q q' hq => hq.behind hnext _
      · exact (h.node (follows_typeDeclaration m hdepth)).bind fun q q' hq => hq.behind hnext _
      · exact .none

/-- The tree of a plain file, from its first declaration or comment to its last token. -/
theorem file?_eq_some_iff (source : List Char) (root : Outline) :
    file? source = some root ↔ ∃ ts first others last, tokens? source = some ts ∧
      declarations ts.length (ts.length + 1) ⟨[], ts⟩ = some (first :: others) ∧
      ts.getLast? = some last ∧
      root = .node (.other "source file") none false first.start last.stop (first :: others) := by
  constructor
  · intro h
    obtain ⟨ts, hts, h⟩ := Option.bind_eq_some_iff.mp h
    obtain ⟨children, hchildren, h⟩ := Option.bind_eq_some_iff.mp h
    cases children with
    | nil => cases h
    | cons first others =>
        cases hlast : ts.getLast? with
        | none =>
            rw [hlast] at h
            cases h
        | some last =>
            rw [hlast] at h
            exact ⟨ts, first, others, last, hts, hchildren, hlast, (Option.some.inj h).symm⟩
  · rintro ⟨ts, first, others, last, hts, hchildren, hlast, rfl⟩
    rw [file?, hts, Option.bind_eq_bind, Option.bind_some, hchildren, Option.bind_eq_bind,
      Option.bind_some, hlast]

theorem Grown.getLast?_isSome {ts ts' : List Token} (h : Grown m ts ts') {last : Token}
    (hlast : ts.getLast? = some last) : ∃ last', ts'.getLast? = some last' := by
  cases h with
  | nil => cases hlast
  | cons => exact ⟨_, List.getLast?_cons⟩
  | remark => exact ⟨_, List.getLast?_cons⟩

/-- A plain file with comments put in is a plain file, with the same nodes below its root. -/
theorem file?_grown {source source' : List Char} {ts ts' : List Token}
    (hsource : tokens? source = some ts) (hsource' : tokens? source' = some ts')
    (hts : Grown m ts ts') {root : Outline} (hfile : file? source = some root) :
    ∃ root', file? source' = some root' ∧ root'.kind = root.kind ∧ root'.role = root.role ∧
      root'.isMissing = root.isMissing ∧
      Threaded (Remarked m.spots) root.children root'.children := by
  obtain ⟨us, first, others, last, hus, hchildren, hlast, rfl⟩ :=
    (file?_eq_some_iff source root).mp hfile
  obtain rfl := Option.some.inj (hus.symm.trans hsource)
  have hstrung : Strung m ⟨[], us⟩ ⟨[], ts'⟩ := ⟨.nil, hts⟩
  have hlength := hts.length_le
  obtain ⟨children', hchildren', hthreaded⟩ :=
    hstrung.declarations hlength (Nat.succ_le_succ hlength) _ hchildren
  -- the first child may be the comment, but there is one
  obtain ⟨first', others', rfl⟩ : ∃ first' others', children' = first' :: others' := by
    cases hthreaded
    · exact ⟨_, _, rfl⟩
    · exact ⟨_, _, rfl⟩
  obtain ⟨last', hlast'⟩ := hts.getLast?_isSome hlast
  exact ⟨_, (file?_eq_some_iff source' _).mpr
    ⟨ts', first', others', last', hsource', hchildren', hlast', rfl⟩, rfl, rfl, rfl, hthreaded⟩

end Files

end RollCall.Source.Plain
