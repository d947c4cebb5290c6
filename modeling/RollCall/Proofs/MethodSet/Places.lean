import Mathlib.Data.List.Lex
import RollCall.Proofs.MethodSet

/-!
# RollCall.Proofs.MethodSet.Places — where a tour meets a name first

A place among the embedded elements is given by the positions that lead to it: the position in the
list of the first interface, then in the list of the one that is embedded there, and so on, through
no name twice. Going through the lists from left to right and into every element before the next one
means to come to the places in the lexicographic order of their paths. A name is met for the first
time where no other path to it comes before.

A run enters every name at the place where it is first met. That rests on one invariant, `Stands`:
whatever the run has not entered lies at or behind the place where it stands, because everything
before was entered, and an entered name that is not open any more leads to entered names only.
-/

namespace RollCall.MethodSet

open Relation (ReflTransGen)

/-! ## §A Places -/

/-- **`Trail index start path names`** — from `start` the positions `path` lead to the first of
`names`, through the others, the last one first. No name stands there twice. -/
inductive Trail (index : Index) (start : String) : List Nat → List String → Prop
  | start : Trail index start [] [start]
  | step {path : List Nat} {outer inner : String} {names : List String} {shape : Shape} {i : Nat} :
      Trail index start path (outer :: names) → index.shape? outer = some shape →
      shape.embedded[i]? = some (.sibling inner) → inner ∉ outer :: names →
      Trail index start (path ++ [i]) (inner :: outer :: names)

/-- The name is found at the end of the path. -/
def Meets (index : Index) (start : String) (path : List Nat) (name : String) : Prop :=
  ∃ names, Trail index start path (name :: names)

/-- One place comes before another when all is gone through from left to right and an element before
what it embeds. -/
def Before (path other : List Nat) : Prop := List.Lex (· < ·) path other

/-- The name is found at the end of the path and at no place before. -/
def FirstMet (index : Index) (start : String) (path : List Nat) (name : String) : Prop :=
  Meets index start path name ∧ ∀ other, Meets index start other name → ¬Before other path

theorem not_before_nil (path : List Nat) : ¬Before path [] := by
  intro h
  cases h

theorem Before.left (front : List Nat) {path other : List Nat} (h : Before path other) :
    Before (front ++ path) (front ++ other) := List.Lex.append_left (· < ·) h front

theorem before_of_lt {i j : Nat} (h : i < j) (front path other : List Nat) :
    Before (front ++ i :: path) (front ++ j :: other) := Before.left front (.rel h)

theorem Before.asymm {path other : List Nat} (h : Before path other) : ¬Before other path :=
  Std.Asymm.asymm (r := List.Lex (· < ·)) path other h

section Trails

variable {index : Index} {start : String} {path : List Nat}

/-- A path leads through one list of names. -/
theorem Trail.unique {names others : List String} (h : Trail index start path names)
    (h' : Trail index start path others) : names = others := by
  induction h generalizing others with
  | start =>
      generalize hpath : ([] : List Nat) = whole at h'
      cases h' with
      | start => rfl
      | step _ _ _ _ => simp at hpath
  | @step path outer inner names shape i _ hshape hinner _ ih =>
      generalize hpath : path ++ [i] = whole at h'
      cases h' with
      | start => simp at hpath
      | @step path' outer' inner' names' shape' i' hrest hshape' hinner' _ =>
          obtain ⟨rfl, hlast⟩ := List.append_inj' hpath rfl
          cases hlast
          cases ih hrest
          rw [hshape] at hshape'
          cases hshape'
          rw [hinner] at hinner'
          cases hinner'
          rfl

theorem FirstMet.unique {name : String} {other : List Nat} (h : FirstMet index start path name)
    (h' : FirstMet index start other name) : path = other :=
  Std.Trichotomous.trichotomous (r := List.Lex (· < ·)) path other (h'.2 path h.1) (h.2 other h'.1)

/-- The start is met before anything else. -/
theorem firstMet_start (index : Index) (start : String) : FirstMet index start [] start :=
  ⟨⟨[], .start⟩, fun other _ => not_before_nil other⟩

theorem Trail.reachable {names : List String} (h : Trail index start path names) :
    ∀ name, names.head? = some name → ReflTransGen (Mentions index) start name := by
  induction h with
  | start =>
      intro name hname
      cases hname
      exact .refl
  | step _ hshape hinner _ ih =>
      intro name hname
      cases hname
      exact (ih _ rfl).tail ⟨_, hshape, List.mem_of_getElem? hinner⟩

theorem Meets.reachable {name : String} (h : Meets index start path name) :
    ReflTransGen (Mentions index) start name := by
  obtain ⟨names, htrail⟩ := h
  exact htrail.reachable name rfl

/-- A trail that goes on from an entered element of `outer`, while all entered names but the open
ones mention entered names only, stays among the entered names. -/
theorem Trail.stays_entered {before : List Nat} {outer : String} {rest others : List String}
    {entered : List String} {shape : Shape} {i : Nat}
    (hbefore : Trail index start before (outer :: rest)) (hshape : index.shape? outer = some shape)
    (hentered : ∀ name, shape.embedded[i]? = some (.sibling name) → name ∈ entered)
    (hclosed : ∀ x ∈ entered, x ∈ outer :: rest ∨ ∀ y, Mentions index x y → y ∈ entered)
    (h : Trail index start path others) :
    ∀ tail, path = before ++ i :: tail →
      ∃ name more, others = name :: more ∧ name ∈ entered ∧ name ∉ outer :: rest ∧
        outer :: rest <:+ more := by
  -- from the right end of the path: the name before the last one is entered and not open
  induction h with
  | start =>
      intro tail hpath
      simp at hpath
  | @step path outer' inner' names' shape' k htrail hshape' hinner' hnew ih =>
      intro tail hpath
      rcases List.eq_nil_or_concat' tail with rfl | ⟨front, last, rfl⟩
      · -- the path ends with the element itself
        obtain ⟨rfl, hlast⟩ := List.append_inj' hpath rfl
        cases hlast
        cases htrail.unique hbefore
        rw [hshape] at hshape'
        cases hshape'
        exact ⟨inner', outer :: rest, rfl, hentered inner' hinner', hnew, List.suffix_rfl⟩
      · have hsplit : path ++ [k] = (before ++ i :: front) ++ [last] := by
          rw [hpath]
          simp
        obtain ⟨hfront, hlast⟩ := List.append_inj' hsplit rfl
        cases hlast
        obtain ⟨name, more, heq, hname, hopen, hsuffix⟩ := ih front hfront
        obtain ⟨rfl, rfl⟩ := List.cons.inj heq
        rcases hclosed outer' hname with hin | hall
        · exact absurd hin hopen
        · have hlarger : outer :: rest <:+ outer' :: names' := hsuffix.trans (List.suffix_cons _ _)
          refine ⟨inner', outer' :: names', rfl, ?_, ?_, hlarger⟩
          · exact hall inner' ⟨shape', hshape', List.mem_of_getElem? hinner'⟩
          · exact fun hin => hnew (hlarger.subset hin)

end Trails

/-! ## §B Where a run stands -/

/-- **`Beyond before i path`** — the path leads to position `i` of the list at `before`, or to some
place behind it. -/
def Beyond (before : List Nat) (i : Nat) (path : List Nat) : Prop :=
  (∃ j tail, i ≤ j ∧ path = before ++ j :: tail) ∨
    ∃ common a b left right, before = common ++ a :: left ∧ path = common ++ b :: right ∧ a < b

theorem Beyond.not_before {before path : List Nat} {i : Nat} (h : Beyond before i path) :
    ¬Before path (before ++ [i]) := by
  rcases h with ⟨j, tail, hij, rfl⟩ | ⟨common, a, b, left, right, rfl, rfl, hab⟩
  · rcases Nat.lt_or_eq_of_le hij with hlt | rfl
    · exact (before_of_lt hlt before [] tail).asymm
    · -- an element comes before what it embeds
      cases tail with
      | nil => exact fun h => h.asymm h
      | cons k tail =>
          have hlonger : Before ([i] ++ []) ([i] ++ k :: tail) := .left [i] .nil
          exact (hlonger.left before).asymm
  · rw [List.append_assoc]
    exact (before_of_lt hab common (left ++ [i]) right).asymm

/-- What lies beyond a position is below its element or beyond the next position. -/
theorem Beyond.next {before path : List Nat} {i : Nat} (h : Beyond before i path) :
    (∃ tail, path = before ++ i :: tail) ∨ Beyond before (i + 1) path := by
  rcases h with ⟨j, tail, hij, rfl⟩ | hright
  · rcases Nat.lt_or_eq_of_le hij with hlt | rfl
    · exact Or.inr (Or.inl ⟨j, tail, hlt, rfl⟩)
    · exact Or.inl ⟨tail, rfl⟩
  · exact Or.inr (Or.inr hright)

/-- What lies beyond a position, the position itself apart, is beyond the first position of the list
that stands there. -/
theorem Beyond.into {before path : List Nat} {i : Nat} (h : Beyond before i path)
    (hne : path ≠ before ++ [i]) : Beyond (before ++ [i]) 0 path := by
  rcases h with ⟨j, tail, hij, rfl⟩ | ⟨common, a, b, left, right, rfl, rfl, hab⟩
  · rcases Nat.lt_or_eq_of_le hij with hlt | rfl
    · exact Or.inr ⟨before, i, j, [], tail, rfl, rfl, hlt⟩
    · cases tail with
      | nil => exact absurd rfl hne
      | cons k tail => exact Or.inl ⟨k, tail, Nat.zero_le k, by simp⟩
  · exact Or.inr ⟨common, a, b, left ++ [i], right, by simp, rfl, hab⟩

/-- **`Stands index start before outer rest i tour`** — the run from `start` stands at position `i`
of the list of `outer`, which it first met at `before`; `outer` and `rest` are the names it is inside
of. What it has not entered lies at or behind its place, and what it has entered and left mentions
only what it has entered. -/
structure Stands (index : Index) (start : String) (before : List Nat) (outer : String)
    (rest : List String) (i : Nat) (tour : Tour) : Prop where
  trail : Trail index start before (outer :: rest)
  first : FirstMet index start before outer
  opened : ∀ name ∈ outer :: rest, name ∈ tour.entered
  waiting : ∀ path name, Meets index start path name → name ∉ tour.entered → Beyond before i path
  closed : ∀ name ∈ tour.entered, name ∈ outer :: rest ∨
    ∀ inner, Mentions index name inner → inner ∈ tour.entered

section Standing

variable {index : Index} {start : String} {before : List Nat} {outer : String}
  {rest : List String} {i : Nat} {tour : Tour} {shape : Shape}

/-- A name that is entered only now is met here for the first time. -/
theorem Stands.firstMet {name : String} (h : Stands index start before outer rest i tour)
    (hshape : index.shape? outer = some shape) (hname : shape.embedded[i]? = some (.sibling name))
    (hnew : name ∉ tour.entered) :
    Trail index start (before ++ [i]) (name :: outer :: rest) ∧
      FirstMet index start (before ++ [i]) name := by
  have htrail : Trail index start (before ++ [i]) (name :: outer :: rest) :=
    .step h.trail hshape hname fun hin => hnew (h.opened name hin)
  exact ⟨htrail, ⟨_, htrail⟩, fun other hother => (h.waiting other name hother hnew).not_before⟩

/-- Behind an element the run stands at the next one, once the name of the element is entered. -/
theorem Stands.next {after : Tour} (h : Stands index start before outer rest i tour)
    (hshape : index.shape? outer = some shape)
    (hmore : ∀ name ∈ tour.entered, name ∈ after.entered)
    (hentered : ∀ name, shape.embedded[i]? = some (.sibling name) → name ∈ after.entered)
    (hclosed : ∀ name ∈ after.entered, name ∈ outer :: rest ∨
      ∀ inner, Mentions index name inner → inner ∈ after.entered) :
    Stands index start before outer rest (i + 1) after := by
  refine ⟨h.trail, h.first, fun name hname => hmore name (h.opened name hname), ?_, hclosed⟩
  rintro path name ⟨names, htrail⟩ hnot
  have hold : name ∉ tour.entered := fun hin => hnot (hmore name hin)
  rcases (h.waiting path name ⟨names, htrail⟩ hold).next with ⟨tail, hpath⟩ | hbeyond
  · obtain ⟨other, more, heq, hin, -, -⟩ :=
      h.trail.stays_entered hshape hentered hclosed htrail tail hpath
    cases heq
    exact absurd hin hnot
  · exact hbeyond

/-- An element that is no name leaves the names as they are. -/
theorem Stands.pass {after : Tour} (h : Stands index start before outer rest i tour)
    (hshape : index.shape? outer = some shape)
    (helement : ∀ name, shape.embedded[i]? ≠ some (.sibling name))
    (hafter : after.entered = tour.entered) :
    Stands index start before outer rest (i + 1) after := by
  refine h.next hshape ?_ (fun name hname => absurd hname (helement name)) ?_
  · rw [hafter]
    exact fun _ hname => hname
  · rw [hafter]
    exact h.closed

theorem Stands.again {name : String} (h : Stands index start before outer rest i tour)
    (hshape : index.shape? outer = some shape)
    (helement : shape.embedded[i]? = some (.sibling name))
    (hin : name ∈ tour.entered) : Stands index start before outer rest (i + 1) tour := by
  refine h.next hshape (fun _ hname => hname) ?_ h.closed
  intro other hother
  rw [helement] at hother
  cases hother
  exact hin

/-- A name that is no interface mentions nothing. -/
theorem Stands.unknown {name : String} (h : Stands index start before outer rest i tour)
    (hshape : index.shape? outer = some shape)
    (helement : shape.embedded[i]? = some (.sibling name))
    (hnone : index.shape? name = none) (w : Warning) :
    Stands index start before outer rest (i + 1) ((tour.mark name).warn w) := by
  refine h.next hshape (fun _ hname => List.mem_append_left _ hname) ?_ ?_
  · intro other hother
    rw [helement] at hother
    cases hother
    exact List.mem_append_right _ (List.mem_singleton_self name)
  · intro other hother
    rw [Tour.warn_entered, Tour.mark_entered, List.mem_append, List.mem_singleton] at hother
    rcases hother with hother | rfl
    · rcases h.closed other hother with hopen | hall
      · exact Or.inl hopen
      · exact Or.inr fun inner hmention => List.mem_append_left _ (hall inner hmention)
    · right
      rintro inner ⟨shape', hshape', -⟩
      rw [hnone] at hshape'
      cases hshape'

/-- Inside a name that is entered the run stands at the first position of its list. -/
theorem Stands.into {name : String} {inner : Shape}
    (h : Stands index start before outer rest i tour) (hshape : index.shape? outer = some shape)
    (hname : shape.embedded[i]? = some (.sibling name)) (hnew : name ∉ tour.entered) :
    Stands index start (before ++ [i]) name (outer :: rest) 0
      ((tour.mark name).collect inner.methods) := by
  obtain ⟨htrail, hfirst⟩ := h.firstMet hshape hname hnew
  refine ⟨htrail, hfirst, ?_, ?_, ?_⟩
  · intro other hother
    rw [Tour.collect_entered, Tour.mark_entered, List.mem_append]
    rcases List.mem_cons.mp hother with rfl | hother
    · exact Or.inr (List.mem_singleton_self _)
    · exact Or.inl (h.opened other hother)
  · intro path other hmeets hnot
    rw [Tour.collect_entered, Tour.mark_entered, List.mem_append, List.mem_singleton,
      not_or] at hnot
    refine (h.waiting path other hmeets hnot.1).into ?_
    rintro rfl
    obtain ⟨names, hnames⟩ := hmeets
    exact hnot.2 (List.cons.inj (hnames.unique htrail)).1
  · intro other hother
    rw [Tour.collect_entered, Tour.mark_entered, List.mem_append, List.mem_singleton] at hother
    rcases hother with hother | rfl
    · rcases h.closed other hother with hopen | hall
      · exact Or.inl (List.mem_cons_of_mem _ hopen)
      · right
        intro inner' hmention
        rw [Tour.collect_entered, Tour.mark_entered, List.mem_append]
        exact Or.inl (hall inner' hmention)
    · exact Or.inl List.mem_cons_self

/-- Behind a name that was gone into the run stands at the next position: all that was entered
inside mentions entered names only, and so does the name itself. -/
theorem Stands.leave {name : String} {inner : Shape} {middle : Tour}
    (h : Stands index start before outer rest i tour) (hshape : index.shape? outer = some shape)
    (helement : shape.embedded[i]? = some (.sibling name)) (hinner : index.shape? name = some inner)
    (hrun : Follows index inner.embedded ((tour.mark name).collect inner.methods) middle) :
    Stands index start before outer rest (i + 1) middle := by
  have hmore : ∀ other ∈ tour.entered, other ∈ middle.entered :=
    fun other hother => hrun.entered_subset other (List.mem_append_left _ hother)
  refine h.next hshape hmore ?_ ?_
  · intro other hother
    rw [helement] at hother
    cases hother
    exact hrun.entered_subset name (List.mem_append_right _ (List.mem_singleton_self name))
  · intro other hother
    rcases hrun.closed other hother with hold | hall
    · rw [Tour.collect_entered, Tour.mark_entered, List.mem_append, List.mem_singleton] at hold
      rcases hold with hold | rfl
      · rcases h.closed other hold with hopen | hall
        · exact Or.inl hopen
        · exact Or.inr fun mentioned hmention => hmore mentioned (hall mentioned hmention)
      · right
        rintro mentioned ⟨shape', hshape', hmem⟩
        rw [hinner] at hshape'
        cases hshape'
        exact hrun.sibling_entered mentioned hmem
    · exact Or.inr hall

end Standing

end RollCall.MethodSet
