import Mathlib.Logic.Relation
import RollCall.MethodSet
import RollCall.Proofs.Budget
import RollCall.Proofs.Dictionary

/-!
# RollCall.Proofs.MethodSet — the tour of an interface finds what is reachable, and ends

A tour goes into names along embedded elements, and every name once. `Follows` is the same traversal
without a count of steps: a derivation of it is one whole run. The count that `tour` starts with is
never used up, so `tour` is the finish of the only run there is.

What a run leaves behind is read off three facts. The names entered are reachable from where it
started. Whatever an entered name mentions is entered, unless the name was entered before the run
began. The methods are the exported ones of the names entered. From a start with nothing entered the
names entered are therefore exactly the reachable ones.
-/

namespace RollCall.MethodSet

open Relation (ReflTransGen)

/-! ## §A Reachable interfaces -/

/-- The name `inner` stands among the embedded elements of the interface `outer`. -/
def Mentions (index : Index) (outer inner : String) : Prop :=
  ∃ shape, index.shape? outer = some shape ∧ Embed.sibling inner ∈ shape.embedded

/-- The interface `outer` embeds the interface `inner` of the same package. -/
def Embeds (index : Index) (outer inner : String) : Prop :=
  Mentions index outer inner ∧ index.shape? inner ≠ none

/-- The interface of that name lists the method. -/
def Declares (index : Index) (name method : String) : Prop :=
  ∃ shape, index.shape? name = some shape ∧ method ∈ shape.methods

theorem Declares.isInterface {index : Index} {name method : String}
    (h : Declares index name method) : index.shape? name ≠ none := by
  obtain ⟨shape, hshape, _⟩ := h
  rw [hshape]
  exact Option.some_ne_none shape

/-- Everything on the way to an interface is one, because only interfaces mention anything. -/
theorem embeds_of_mentions {index : Index} {outer inner : String}
    (h : ReflTransGen (Mentions index) outer inner) (hi : index.shape? inner ≠ none) :
    ReflTransGen (Embeds index) outer inner := by
  induction h with
  | refl => exact .refl
  | @tail middle inner _ hlast ih =>
      have hmiddle : index.shape? middle ≠ none := by
        obtain ⟨shape, hshape, _⟩ := hlast
        rw [hshape]
        exact Option.some_ne_none shape
      exact (ih hmiddle).tail ⟨hlast, hi⟩

theorem mentions_of_embeds {index : Index} {outer inner : String}
    (h : ReflTransGen (Embeds index) outer inner) : ReflTransGen (Mentions index) outer inner :=
  ReflTransGen.mono (fun _ _ hstep => hstep.1) outer inner h

/-! ## §B Runs without a count of steps -/

/-- Notes that a name is entered. -/
def Tour.mark (tour : Tour) (name : String) : Tour :=
  { tour with entered := tour.entered ++ [name] }

@[simp]
theorem Tour.mark_entered (tour : Tour) (name : String) :
    (tour.mark name).entered = tour.entered ++ [name] := rfl

@[simp]
theorem Tour.mark_methods (tour : Tour) (name : String) :
    (tour.mark name).methods = tour.methods := rfl

@[simp]
theorem Tour.warn_entered (tour : Tour) (w : Warning) : (tour.warn w).entered = tour.entered := rfl

@[simp]
theorem Tour.collect_entered (tour : Tour) (methods : List String) :
    (tour.collect methods).entered = tour.entered := rfl

/-- **`Follows index embedded tour finish`** — a run through embedded elements, from left to right,
turns `tour` into `finish`. -/
inductive Follows (index : Index) : List Embed → Tour → Tour → Prop
  | done (tour : Tour) : Follows index [] tour tour
  /-- A name that was entered before is passed over. -/
  | again {name : String} {rest : List Embed} {tour finish : Tour} :
      name ∈ tour.entered → Follows index rest tour finish →
      Follows index (.sibling name :: rest) tour finish
  /-- A name that is no interface is entered and reported. -/
  | unknown {name : String} {rest : List Embed} {tour finish : Tour} :
      name ∉ tour.entered → index.shape? name = none →
      Follows index rest ((tour.mark name).warn (.unknownEmbed name)) finish →
      Follows index (.sibling name :: rest) tour finish
  /-- An interface gives its methods, then what it embeds is gone through. -/
  | into {name : String} {shape : Shape} {rest : List Embed} {tour middle finish : Tour} :
      name ∉ tour.entered → index.shape? name = some shape →
      Follows index shape.embedded ((tour.mark name).collect shape.methods) middle →
      Follows index rest middle finish →
      Follows index (.sibling name :: rest) tour finish
  | foreign {package name : String} {rest : List Embed} {tour finish : Tour} :
      Follows index rest (tour.warn (.foreignEmbed package name)) finish →
      Follows index (.foreign package name :: rest) tour finish
  | term {text : String} {rest : List Embed} {tour finish : Tour} :
      Follows index rest tour finish → Follows index (.term text :: rest) tour finish

/-- A run has one finish. -/
theorem Follows.unique {index : Index} {embedded : List Embed} {tour finish other : Tour}
    (h : Follows index embedded tour finish) (h' : Follows index embedded tour other) :
    finish = other := by
  induction h generalizing other with
  | done tour =>
      cases h'
      rfl
  | again hin _ ih =>
      cases h' with
      | again _ hrest => exact ih hrest
      | unknown hnot _ _ => exact absurd hin hnot
      | into hnot _ _ _ => exact absurd hin hnot
  | unknown hnot hnone _ ih =>
      cases h' with
      | again hin _ => exact absurd hin hnot
      | unknown _ _ hrest => exact ih hrest
      | into _ hsome _ _ => rw [hnone] at hsome; cases hsome
  | into hnot hsome _ _ ihinner ihrest =>
      cases h' with
      | again hin _ => exact absurd hin hnot
      | unknown _ hnone _ => rw [hnone] at hsome; cases hsome
      | into _ hsome' hinner hrest =>
          rw [hsome] at hsome'
          cases hsome'
          rw [← ihinner hinner] at hrest
          exact ihrest hrest
  | foreign _ ih =>
      cases h' with
      | foreign hrest => exact ih hrest
  | term _ ih =>
      cases h' with
      | term hrest => exact ih hrest

/-! ## §C What a run leaves behind -/

section Runs

variable {index : Index} {embedded : List Embed} {tour finish : Tour}

/-- A run forgets no name, and keeps their order. -/
theorem Follows.keeps_entered (h : Follows index embedded tour finish) :
    tour.entered <+: finish.entered := by
  induction h with
  | done tour => exact List.prefix_rfl
  | again _ _ ih => exact ih
  | unknown _ _ _ ih => exact (List.prefix_append _ _).trans ih
  | into _ _ _ _ ihinner ihrest => exact ((List.prefix_append _ _).trans ihinner).trans ihrest
  | foreign _ ih => exact ih
  | term _ ih => exact ih

theorem Follows.entered_subset (h : Follows index embedded tour finish) :
    ∀ name ∈ tour.entered, name ∈ finish.entered :=
  fun _ hin => h.keeps_entered.subset hin

/-- Every name that the elements mention is entered in the end. -/
theorem Follows.sibling_entered (h : Follows index embedded tour finish) :
    ∀ name, Embed.sibling name ∈ embedded → name ∈ finish.entered := by
  induction h with
  | done tour =>
      intro name hmem
      cases hmem
  | again hin hrest ih =>
      intro name hmem
      rcases List.mem_cons.mp hmem with heq | hmem
      · cases heq
        exact hrest.entered_subset _ hin
      · exact ih name hmem
  | unknown _ _ hrest ih =>
      intro name hmem
      rcases List.mem_cons.mp hmem with heq | hmem
      · cases heq
        exact hrest.entered_subset _ (by simp)
      · exact ih name hmem
  | into _ _ hinner hrest _ ihrest =>
      intro name hmem
      rcases List.mem_cons.mp hmem with heq | hmem
      · cases heq
        exact hrest.entered_subset _ (hinner.entered_subset _ (by simp))
      · exact ihrest name hmem
  | foreign _ ih =>
      intro name hmem
      rcases List.mem_cons.mp hmem with heq | hmem
      · cases heq
      · exact ih name hmem
  | term _ ih =>
      intro name hmem
      rcases List.mem_cons.mp hmem with heq | hmem
      · cases heq
      · exact ih name hmem

/-- What a run newly enters is reachable from the elements it goes through. -/
theorem Follows.entered_reachable (h : Follows index embedded tour finish) :
    ∀ inner ∈ finish.entered, inner ∈ tour.entered ∨
      ∃ name, Embed.sibling name ∈ embedded ∧ ReflTransGen (Mentions index) name inner := by
  induction h with
  | done tour => exact fun _ hin => Or.inl hin
  | again _ _ ih =>
      intro inner hin
      rcases ih inner hin with hold | ⟨name, hmem, hreach⟩
      · exact Or.inl hold
      · exact Or.inr ⟨name, List.mem_cons_of_mem _ hmem, hreach⟩
  | @unknown name rest tour finish _ _ _ ih =>
      intro inner hin
      rcases ih inner hin with hold | ⟨other, hmem, hreach⟩
      · rcases List.mem_append.mp hold with hold | hnew
        · exact Or.inl hold
        · rw [List.mem_singleton] at hnew
          exact Or.inr ⟨name, by simp, hnew ▸ .refl⟩
      · exact Or.inr ⟨other, List.mem_cons_of_mem _ hmem, hreach⟩
  | @into name shape rest tour middle finish _ hshape _ _ ihinner ihrest =>
      intro inner hin
      rcases ihrest inner hin with hmiddle | ⟨other, hmem, hreach⟩
      · rcases ihinner inner hmiddle with hold | ⟨other, hmem, hreach⟩
        · rcases List.mem_append.mp hold with hold | hnew
          · exact Or.inl hold
          · rw [List.mem_singleton] at hnew
            exact Or.inr ⟨name, by simp, hnew ▸ .refl⟩
        · have hstep : Mentions index name other := ⟨shape, hshape, hmem⟩
          exact Or.inr ⟨name, by simp, .head hstep hreach⟩
      · exact Or.inr ⟨other, List.mem_cons_of_mem _ hmem, hreach⟩
  | foreign _ ih =>
      intro inner hin
      rcases ih inner hin with hold | ⟨name, hmem, hreach⟩
      · exact Or.inl hold
      · exact Or.inr ⟨name, List.mem_cons_of_mem _ hmem, hreach⟩
  | term _ ih =>
      intro inner hin
      rcases ih inner hin with hold | ⟨name, hmem, hreach⟩
      · exact Or.inl hold
      · exact Or.inr ⟨name, List.mem_cons_of_mem _ hmem, hreach⟩

/-- Whatever a newly entered name mentions is entered in the end. A name that was entered before the
run may still be open: its own elements are gone through by the run around this one. -/
theorem Follows.closed (h : Follows index embedded tour finish) :
    ∀ outer ∈ finish.entered, outer ∈ tour.entered ∨
      ∀ inner, Mentions index outer inner → inner ∈ finish.entered := by
  induction h with
  | done tour => exact fun _ hin => Or.inl hin
  | again _ _ ih => exact ih
  | @unknown name rest tour finish _ hnone hrest ih =>
      intro outer hin
      rcases ih outer hin with hold | hclosed
      · rcases List.mem_append.mp hold with hold | hnew
        · exact Or.inl hold
        · right
          intro inner ⟨shape, hshape, _⟩
          rw [List.mem_singleton.mp hnew, hnone] at hshape
          cases hshape
      · exact Or.inr hclosed
  | @into name shape rest tour middle finish _ hshape hinner hrest ihinner ihrest =>
      intro outer hin
      rcases ihrest outer hin with hmiddle | hclosed
      · rcases ihinner outer hmiddle with hold | hclosed
        · rcases List.mem_append.mp hold with hold | hnew
          · exact Or.inl hold
          · right
            intro inner ⟨shape', hshape', hmem⟩
            -- the name itself: the inner run went through all that it mentions
            rw [List.mem_singleton.mp hnew, hshape] at hshape'
            cases hshape'
            exact hrest.entered_subset _ (hinner.sibling_entered _ hmem)
        · right
          intro inner hmention
          exact hrest.entered_subset _ (hclosed inner hmention)
      · exact Or.inr hclosed
  | foreign _ ih => exact ih
  | term _ ih => exact ih

/-! ### Methods -/

/-- The methods of a tour are the exported ones of the names it entered. -/
def Gathered (index : Index) (tour : Tour) : Prop :=
  ∀ m, m ∈ Dictionary.names tour.methods ↔
    isExported m = true ∧ ∃ name ∈ tour.entered, Declares index name m

theorem collect_methods (tour : Tour) (methods : List String) :
    (tour.collect methods).methods =
      Dictionary.setAll tour.methods ((methods.filter isExported).map fun m => (m, ())) := by
  rw [Dictionary.setAll, List.foldl_map, Tour.collect]

theorem mem_names_collect (tour : Tour) (methods : List String) (m : String) :
    m ∈ Dictionary.names (tour.collect methods).methods ↔
      m ∈ Dictionary.names tour.methods ∨ (m ∈ methods ∧ isExported m = true) := by
  have hnames : Dictionary.names ((methods.filter isExported).map fun m => (m, ())) =
      methods.filter isExported := by
    rw [Dictionary.names, List.map_map]
    exact List.map_id _
  rw [collect_methods, Dictionary.mem_names_setAll, hnames, List.mem_filter]

theorem Gathered.mark_unknown {name : String} (h : Gathered index tour)
    (hnone : index.shape? name = none) : Gathered index (tour.mark name) := by
  intro m
  rw [Tour.mark_methods, h m, Tour.mark_entered]
  refine and_congr_right fun _ => ⟨?_, ?_⟩
  · rintro ⟨other, hin, hdecl⟩
    exact ⟨other, List.mem_append_left _ hin, hdecl⟩
  · rintro ⟨other, hin, hdecl⟩
    rcases List.mem_append.mp hin with hin | hnew
    · exact ⟨other, hin, hdecl⟩
    · rw [List.mem_singleton.mp hnew] at hdecl
      exact absurd hnone hdecl.isInterface

theorem Gathered.mark_collect {name : String} {shape : Shape} (h : Gathered index tour)
    (hshape : index.shape? name = some shape) :
    Gathered index ((tour.mark name).collect shape.methods) := by
  intro m
  rw [mem_names_collect, Tour.mark_methods, h m, Tour.collect_entered, Tour.mark_entered]
  constructor
  · rintro (⟨hexp, other, hin, hdecl⟩ | ⟨hmem, hexp⟩)
    · exact ⟨hexp, other, List.mem_append_left _ hin, hdecl⟩
    · exact ⟨hexp, name, by simp, shape, hshape, hmem⟩
  · rintro ⟨hexp, other, hin, hdecl⟩
    rcases List.mem_append.mp hin with hin | hnew
    · exact Or.inl ⟨hexp, other, hin, hdecl⟩
    · obtain ⟨shape', hshape', hmem⟩ := hdecl
      rw [List.mem_singleton.mp hnew, hshape] at hshape'
      cases hshape'
      exact Or.inr ⟨hmem, hexp⟩

theorem Follows.gathered (h : Follows index embedded tour finish) (hg : Gathered index tour) :
    Gathered index finish := by
  induction h with
  | done tour => exact hg
  | again _ _ ih => exact ih hg
  | unknown _ hnone _ ih => exact ih (hg.mark_unknown hnone)
  | into _ hshape _ _ ihinner ihrest => exact ihrest (ihinner (hg.mark_collect hshape))
  | foreign _ ih => exact ih hg
  | term _ ih => exact ih hg

theorem Follows.ascending (h : Follows index embedded tour finish)
    (ha : Dictionary.Ascending tour.methods) : Dictionary.Ascending finish.methods := by
  induction h with
  | done tour => exact ha
  | again _ _ ih => exact ih ha
  | unknown _ _ _ ih => exact ih ha
  | into _ _ _ _ ihinner ihrest =>
      refine ihrest (ihinner ?_)
      rw [collect_methods]
      exact ha.setAll _
  | foreign _ ih => exact ih ha
  | term _ ih => exact ih ha

/-! ## §D The count of steps is never used up -/

/-- One element of the list that a tour goes through. -/
def visit (index : Index) (fuel : Nat) (tour : Tour) : Embed → Tour
  | .sibling name => enter index fuel name tour
  | .foreign package name => tour.warn (.foreignEmbed package name)
  | .term _ => tour

theorem enter_entered {name : String} (h : name ∈ tour.entered) (fuel : Nat) :
    enter index (fuel + 1) name tour = tour := by
  rw [enter, if_pos (List.contains_iff_mem.mpr h)]

theorem enter_unknown {name : String} (h : name ∉ tour.entered) (hnone : index.shape? name = none)
    (fuel : Nat) :
    enter index (fuel + 1) name tour = (tour.mark name).warn (.unknownEmbed name) := by
  have hc : ¬tour.entered.contains name = true := fun hc => h (List.contains_iff_mem.mp hc)
  rw [enter, if_neg hc]
  simp only [hnone]
  rfl

theorem enter_interface {name : String} {shape : Shape} (h : name ∉ tour.entered)
    (hshape : index.shape? name = some shape) (fuel : Nat) :
    enter index (fuel + 1) name tour =
      shape.embedded.foldl (visit index fuel) ((tour.mark name).collect shape.methods) := by
  have hc : ¬tour.entered.contains name = true := fun hc => h (List.contains_iff_mem.mp hc)
  rw [enter, if_neg hc]
  simp only [hshape]
  congr 1

/-- The number of entries of the index that a tour has not entered. -/
def unentered (index : Index) (tour : Tour) : Nat :=
  Budget.left Prod.fst (fun _ => 1) tour.entered index

theorem unentered_anti {tour finish : Tour} (h : ∀ name ∈ tour.entered, name ∈ finish.entered) :
    unentered index finish ≤ unentered index tour :=
  Budget.left_anti Prod.fst (fun _ => 1) h index

/-- Going into an interface leaves one entry less that is still to be entered. -/
theorem unentered_mark_lt {name : String} {shape : Shape} (h : name ∉ tour.entered)
    (hshape : index.shape? name = some shape) :
    unentered index ((tour.mark name).collect shape.methods) < unentered index tour := by
  obtain ⟨decl, hdecl, -⟩ := Option.bind_eq_some_iff.mp hshape
  have hsubset : ∀ other ∈ tour.entered, other ∈ tour.entered ++ [name] :=
    fun other ho => List.mem_append_left _ ho
  exact Budget.left_add_cost_le Prod.fst (fun _ => 1) hsubset (Dictionary.mem_of_get? hdecl) h
    (List.mem_append_right _ (List.mem_singleton_self name))

/-- A count of steps above the number of names that are left gives a whole run. -/
theorem follows_foldl_visit (fuel : Nat) :
    ∀ (embedded : List Embed) (tour : Tour), unentered index tour < fuel →
      Follows index embedded tour (embedded.foldl (visit index fuel) tour) := by
  -- the outer induction pays for going into a name, the inner one goes along the elements
  induction fuel with
  | zero =>
      intro embedded tour h
      exact absurd h (Nat.not_lt_zero _)
  | succ fuel ih =>
      intro embedded
      induction embedded with
      | nil =>
          intro tour _
          exact .done tour
      | cons embed rest ihrest =>
          intro tour h
          rw [List.foldl_cons]
          cases embed with
          | sibling name =>
              rw [visit]
              by_cases hin : name ∈ tour.entered
              · rw [enter_entered hin]
                exact .again hin (ihrest tour h)
              · cases hshape : index.shape? name with
                | none =>
                    rw [enter_unknown hin hshape]
                    refine .unknown hin hshape (ihrest _ (lt_of_le_of_lt ?_ h))
                    exact unentered_anti fun other ho => List.mem_append_left _ ho
                | some shape =>
                    rw [enter_interface hin hshape]
                    have hinner := ih shape.embedded ((tour.mark name).collect shape.methods)
                      (Nat.lt_of_lt_of_le (unentered_mark_lt hin hshape) (Nat.le_of_lt_succ h))
                    refine .into hin hshape hinner (ihrest _ (lt_of_le_of_lt ?_ h))
                    exact unentered_anti fun other ho =>
                      hinner.entered_subset _ (List.mem_append_left _ ho)
          | foreign package name => exact .foreign (ihrest _ h)
          | term text => exact .term (ihrest _ h)

end Runs

/-- `tour` is a whole run. -/
theorem follows_tour (index : Index) (name : String) :
    Follows index [.sibling name] .start (tour index name) := by
  have hlt : unentered index .start < index.length + 2 := by
    have hle : unentered index .start ≤ index.length := Budget.left_one_le_length Prod.fst [] index
    omega
  exact follows_foldl_visit (index.length + 2) [.sibling name] .start hlt

/-- The first name that a tour enters is the one it starts from. -/
theorem tour_entered_eq_cons (index : Index) (name : String) :
    ∃ others, (tour index name).entered = name :: others := by
  have hprefix : [name] <+: (tour index name).entered := by
    cases follows_tour index name with
    | again hin _ => cases hin
    | unknown _ _ hrest => exact hrest.keeps_entered
    | into _ _ hinner hrest => exact hinner.keeps_entered.trans hrest.keeps_entered
  obtain ⟨others, hothers⟩ := hprefix
  exact ⟨others, hothers.symm⟩

/-! ## §E The method set -/

/-- The names that the tour of an interface enters are the reachable ones. -/
theorem mem_entered_tour (index : Index) (name inner : String) :
    inner ∈ (tour index name).entered ↔ ReflTransGen (Mentions index) name inner := by
  have hrun := follows_tour index name
  constructor
  · intro hin
    rcases hrun.entered_reachable inner hin with hold | ⟨start, hmem, hreach⟩
    · cases hold
    · cases List.mem_singleton.mp hmem
      exact hreach
  · intro hreach
    induction hreach with
    | refl => exact hrun.sibling_entered name (List.mem_singleton_self _)
    | @tail outer inner _ hstep ih =>
        rcases hrun.closed outer ih with hold | hclosed
        · cases hold
        · exact hclosed inner hstep

theorem gathered_tour (index : Index) (name : String) : Gathered index (tour index name) := by
  apply (follows_tour index name).gathered
  intro m
  simp [Tour.start]

/-- The methods that a tour finds are those of the interfaces reachable by embedding. -/
theorem mem_methods_tour (index : Index) (name m : String) :
    m ∈ Dictionary.names (tour index name).methods ↔ isExported m = true ∧
      ∃ inner, ReflTransGen (Embeds index) name inner ∧ Declares index inner m := by
  rw [gathered_tour index name m]
  refine and_congr_right fun _ => ⟨?_, ?_⟩
  · rintro ⟨inner, hin, hdecl⟩
    have hreach := (mem_entered_tour index name inner).mp hin
    exact ⟨inner, embeds_of_mentions hreach hdecl.isInterface, hdecl⟩
  · rintro ⟨inner, hreach, hdecl⟩
    exact ⟨inner, (mem_entered_tour index name inner).mpr (mentions_of_embeds hreach), hdecl⟩

theorem names_eq_error {index : Index} {name : String} (h : index.shape? name = none) :
    names index name = .error ⟨name⟩ := by
  rw [names, h]
  rfl

theorem names_eq_ok {index : Index} {name : String} (h : index.shape? name ≠ none) :
    names index name = .ok (Dictionary.names (tour index name).methods) := by
  have hnot : ¬(index.shape? name).isNone = true := fun hn => h (Option.isNone_iff_eq_none.mp hn)
  rw [names, if_neg hnot]

theorem eq_of_names_ok {index : Index} {name : String} {methods : List String}
    (h : names index name = .ok methods) :
    methods = Dictionary.names (tour index name).methods := by
  by_cases hnone : index.shape? name = none
  · rw [names_eq_error hnone] at h
    cases h
  · rw [names_eq_ok hnone] at h
    cases h
    rfl

theorem names_ascending (index : Index) (name : String) :
    (Dictionary.names (tour index name).methods).Pairwise (· < ·) :=
  (follows_tour index name).ascending Dictionary.ascending_nil

/-- Listing the methods of a name ends, in one way only. It fails exactly where the name is no
interface of the index, and otherwise gives in ascending order the exported methods of all
interfaces that are reachable by embedding. -/
theorem names_of_reachable (index : Index) (name : String) :
    (∀ finish, Follows index [.sibling name] .start finish ↔ finish = tour index name) ∧
      match names index name with
      | .error e => e = ⟨name⟩ ∧ index.shape? name = none
      | .ok methods =>
          index.shape? name ≠ none ∧ methods.Pairwise (· < ·) ∧
            ∀ m, m ∈ methods ↔ isExported m = true ∧
              ∃ inner, ReflTransGen (Embeds index) name inner ∧ Declares index inner m := by
  constructor
  · intro finish
    constructor
    · intro hrun
      exact hrun.unique (follows_tour index name)
    · rintro rfl
      exact follows_tour index name
  · by_cases h : index.shape? name = none
    · rw [names_eq_error h]
      exact ⟨rfl, h⟩
    · rw [names_eq_ok h]
      exact ⟨h, names_ascending index name, mem_methods_tour index name⟩

end RollCall.MethodSet
