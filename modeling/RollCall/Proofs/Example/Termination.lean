import RollCall.Proofs.Example.Run

/-!
# RollCall.Proofs.Example.Termination — building an example ends

Steps bound how deep the recursion goes, and an answer that is reached with some number of them is
the answer with every larger number: more steps never change what has been found with fewer. Where
the declared names have no circle without a struct there is such a number for every type, whatever
is registered and whatever structs are begun. The recursion therefore ends, also over structs that
hold one another.
-/

namespace RollCall.Example

open Relation (TransGen)

/-! ## §A Answers with other steps -/

section Carrying

variable {types : Declarations} {m fuel : Nat}

/-- An answer carries over to another number of steps if the answers one layer below do. -/
theorem typeWithin_carry {t : GoType} {bench : Bench} {answer : Except ExampleError Json × Bench}
    (hanswer : typeWithin types (m + 1) t bench = some answer)
    (hwrap : ∀ inner dress before, Dictionary.get? t.spelling bench.registry = none →
      layer types t = .wrap inner dress → typeWithin types m inner bench = some before →
        typeWithin types fuel inner bench = some before)
    (hstruct : ∀ fields before, layer types t = .struct fields →
      structWithin types m t.spelling fields bench = some before →
        structWithin types fuel t.spelling fields bench = some before) :
    typeWithin types (fuel + 1) t bench = some answer := by
  rw [typeWithin_succ] at hanswer ⊢
  cases hget : Dictionary.get? t.spelling bench.registry with
  | some value =>
      rw [hget] at hanswer
      exact hanswer
  | none =>
      rw [hget] at hanswer
      cases hlayer : layer types t with
      | leaf result =>
          rw [hlayer] at hanswer
          exact hanswer
      | wrap inner dress =>
          rw [hlayer] at hanswer
          dsimp only at hanswer ⊢
          obtain ⟨before, hinner, -⟩ := Answer.map_eq_some hanswer
          -- both sides now dress the same answer
          rw [hwrap inner dress before hget hlayer hinner, ← hinner]
          exact hanswer
      | struct fields =>
          rw [hlayer] at hanswer
          dsimp only at hanswer ⊢
          obtain ⟨before, hbefore⟩ := exists_of_keep hanswer
          rw [hstruct fields before hlayer hbefore, ← hbefore]
          exact hanswer

theorem structWithin_carry {key : String} {fields : List (Field GoType)} {bench : Bench}
    {answer : Except ExampleError Json × Bench}
    (hanswer : structWithin types (m + 1) key fields bench = some answer)
    (hfields : ∀ before, key ∉ bench.unfinished →
      fieldsWithin types m fields [] ⟨bench.registry, key :: bench.unfinished⟩ = some before →
        fieldsWithin types fuel fields [] ⟨bench.registry, key :: bench.unfinished⟩ = some before) :
    structWithin types (fuel + 1) key fields bench = some answer := by
  rw [structWithin] at hanswer ⊢
  by_cases hbegun : bench.unfinished.contains key = true
  · rw [if_pos hbegun] at hanswer ⊢
    exact hanswer
  · rw [if_neg hbegun] at hanswer ⊢
    have hnot : key ∉ bench.unfinished := fun hmem => hbegun (List.contains_iff_mem.mpr hmem)
    cases hbefore : fieldsWithin types m fields []
        { bench with unfinished := key :: bench.unfinished } with
    | none =>
        rw [hbefore] at hanswer
        cases hanswer
    | some before =>
        rw [hfields before hnot hbefore, ← hbefore]
        exact hanswer

/-- The fields behind the first one are built on a bench with the same structs begun. -/
theorem fieldsWithin_carry {field : Field GoType} {fields : List (Field GoType)}
    {members : Dictionary Json} {bench : Bench}
    {answer : Except ExampleError (Dictionary Json) × Bench}
    (hanswer : fieldsWithin types (m + 1) (field :: fields) members bench = some answer)
    (hfirst : ∀ before, typeWithin types m field.type bench = some before →
      typeWithin types fuel field.type bench = some before)
    (hrest : ∀ others middle after, middle.unfinished = bench.unfinished →
      fieldsWithin types m fields others middle = some after →
        fieldsWithin types fuel fields others middle = some after) :
    fieldsWithin types (fuel + 1) (field :: fields) members bench = some answer := by
  rw [fieldsWithin] at hanswer ⊢
  by_cases hexported : isExported field.name = true
  · rw [if_pos hexported] at hanswer ⊢
    cases hbefore : typeWithin types m field.type bench with
    | none =>
        rw [hbefore] at hanswer
        cases hanswer
    | some before =>
        rw [hbefore] at hanswer
        rw [hfirst before hbefore]
        obtain ⟨result, middle⟩ := before
        have hrun := (ran types m).ofType field.type bench result middle hbefore
        cases result with
        | error e => exact hanswer
        | ok value => exact hrest _ middle answer hrun.unfinished_eq hanswer
  · rw [if_neg hexported] at hanswer ⊢
    exact hrest members bench answer rfl hanswer

end Carrying

/-! ## §B One step more -/

/-- **`Stable types fuel`** — one step more leads to the same answers. -/
structure Stable (types : Declarations) (fuel : Nat) : Prop where
  ofType : ∀ t bench answer, typeWithin types fuel t bench = some answer →
    typeWithin types (fuel + 1) t bench = some answer
  ofStruct : ∀ key fields bench answer, structWithin types fuel key fields bench = some answer →
    structWithin types (fuel + 1) key fields bench = some answer
  ofFields : ∀ fields members bench answer,
    fieldsWithin types fuel fields members bench = some answer →
      fieldsWithin types (fuel + 1) fields members bench = some answer

section Stability

variable {types : Declarations} {fuel : Nat}

theorem Stable.ofType_succ (h : Stable types fuel) (t : GoType) (bench : Bench)
    (answer : Except ExampleError Json × Bench)
    (hanswer : typeWithin types (fuel + 1) t bench = some answer) :
    typeWithin types (fuel + 2) t bench = some answer := by
  apply typeWithin_carry hanswer
  · intro inner dress before _ _ hbefore
    exact h.ofType inner bench before hbefore
  · intro fields before _ hbefore
    exact h.ofStruct t.spelling fields bench before hbefore

theorem Stable.ofStruct_succ (h : Stable types fuel) (key : String) (fields : List (Field GoType))
    (bench : Bench) (answer : Except ExampleError Json × Bench)
    (hanswer : structWithin types (fuel + 1) key fields bench = some answer) :
    structWithin types (fuel + 2) key fields bench = some answer := by
  apply structWithin_carry hanswer
  intro before _ hbefore
  exact h.ofFields fields [] _ before hbefore

theorem Stable.ofFields_succ (h : Stable types fuel) (fields : List (Field GoType))
    (members : Dictionary Json) (bench : Bench)
    (answer : Except ExampleError (Dictionary Json) × Bench)
    (hanswer : fieldsWithin types (fuel + 1) fields members bench = some answer) :
    fieldsWithin types (fuel + 2) fields members bench = some answer := by
  cases fields with
  | nil => exact hanswer
  | cons field fields =>
      apply fieldsWithin_carry hanswer
      · intro before hbefore
        exact h.ofType field.type bench before hbefore
      · intro others middle after _ hafter
        exact h.ofFields fields others middle after hafter

theorem stable (types : Declarations) (fuel : Nat) : Stable types fuel := by
  induction fuel with
  | zero => exact ⟨nofun, nofun, nofun⟩
  | succ fuel ih => exact ⟨ih.ofType_succ, ih.ofStruct_succ, ih.ofFields_succ⟩

/-- An answer stays the answer however many more steps are allowed. -/
theorem typeWithin_of_le {t : GoType} {bench : Bench} {answer : Except ExampleError Json × Bench}
    (h : typeWithin types fuel t bench = some answer) {more : Nat} (hle : fuel ≤ more) :
    typeWithin types more t bench = some answer := by
  induction hle with
  | refl => exact h
  | step _ ih => exact (stable types _).ofType t bench answer ih

/-- The answers of any two sufficient numbers of steps are the same. -/
theorem typeWithin_unique {t : GoType} {bench : Bench} {m n : Nat}
    {one other : Except ExampleError Json × Bench}
    (hone : typeWithin types m t bench = some one)
    (hother : typeWithin types n t bench = some other) : one = other := by
  have hmax := typeWithin_of_le hone (Nat.le_max_left m n)
  rw [typeWithin_of_le hother (Nat.le_max_right m n)] at hmax
  exact (Option.some.inj hmax).symm

end Stability

/-! ## §C Every recursion ends -/

/-- Where no declared name comes down to itself without a struct, building an example of a type
ends, whatever is registered and whatever structs are begun: with `steps` steps or any larger number
of them there is an answer, and it is the same one. -/
theorem typeWithin_ends (types : Declarations) (hcircle : NoCircle types) (t : GoType)
    (bench : Bench) (fuel : Nat) (hfuel : steps types t ≤ fuel) :
    typeWithin types fuel t bench = some (ofType types t bench) := by
  obtain ⟨result, registry, hanswer⟩ :=
    (ending types (steps types t)).ofType t bench (typeEnds_steps hcircle t bench.unfinished)
  rw [typeWithin_of_le hanswer hfuel, ofType, hanswer, Option.getD_some]

/-- Names have no circle where each leads only to names of a lower rank. -/
theorem noCircle_of_rank {types : Declarations} (rank : String → Nat)
    (h : ∀ outer inner, Unfolds types outer inner → rank inner < rank outer) : NoCircle types := by
  intro name hcircle
  have hlt : ∀ {inner}, TransGen (Unfolds types) name inner → rank inner < rank name := by
    intro inner hreach
    induction hreach with
    | single hstep => exact h _ _ hstep
    | tail _ hstep ih => exact Nat.lt_trans (h _ _ hstep) ih
  exact Nat.lt_irrefl _ (hlt hcircle)

/-- A chain of names down to a struct that holds itself and the whole chain. -/
def forestTypes : Declarations :=
  [("Forest", .slice (.plain "Grove")), ("Grove", .chan (.array (some 2) (.plain "Tree"))),
    ("Tree", .struct [⟨"Parent", .pointer (.plain "Tree"), false⟩,
      ⟨"Around", .plain "Forest", false⟩])]

/-- The chain has no circle, though the struct at its end leads back to its start, and building ends
where the struct is begun already. -/
theorem typeWithin_forest_ends :
    NoCircle forestTypes ∧
      typeWithin forestTypes 2000 (.plain "Forest") ⟨[], ["Tree"]⟩ =
        some (.error (.recursive "Tree"), ⟨[], ["Tree"]⟩) := by
  have hcircle : NoCircle forestTypes := by
    refine noCircle_of_rank
      (fun name => if name = "Forest" then 2 else if name = "Grove" then 1 else 0) ?_
    rintro outer inner ⟨declared, hget, hbottom⟩
    have hmem := Dictionary.mem_of_get? hget
    simp only [forestTypes, List.mem_cons, Prod.mk.injEq, List.not_mem_nil, or_false] at hmem
    rcases hmem with ⟨rfl, rfl⟩ | ⟨rfl, rfl⟩ | ⟨rfl, rfl⟩
    · cases hbottom
      decide
    · cases hbottom
      decide
    · cases hbottom
  refine ⟨hcircle, ?_⟩
  rw [typeWithin_ends forestTypes hcircle (.plain "Forest") ⟨[], ["Tree"]⟩ 2000 (by decide)]
  rfl

end RollCall.Example
