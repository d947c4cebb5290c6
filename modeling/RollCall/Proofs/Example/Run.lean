import RollCall.Proofs.Example.Steps

/-!
# RollCall.Proofs.Example.Run — building an example, step by step and without counting

`Run` is the recursion as a relation: one rule for everything that can happen at a type and at a list
of fields, with the bench before and after. It says once what building can do, and what holds of all
building is proved by induction on it. Every answer that the recursion gives comes from a run, and
where the declared names have no circle without a struct there is an answer for every type.
-/

namespace RollCall.Example

/-! ## §A The rules -/

/-- What is being built: the example of a type, or the members for a list of fields, added to the
members built before. -/
inductive Task where
  | type (t : GoType)
  | fields (fields : List (Field GoType)) (members : Dictionary Json)

/-- The bench when all fields of a struct are done: the struct is not begun any more, and the value of
a declared one is registered. -/
def closed (t : GoType) (result : Except ExampleError Json) (bench : Bench) : Bench :=
  match t, result with
  | .named none _, .ok value =>
    ⟨Dictionary.set t.spelling value bench.registry, bench.unfinished.tail⟩
  | _, _ => ⟨bench.registry, bench.unfinished.tail⟩

/-- **`Run types task bench result after`** — the task on the bench has the result, and leaves the
bench `after`. The members for a list of fields are the object of them. -/
inductive Run (types : Declarations) :
    Task → Bench → Except ExampleError Json → Bench → Prop
  /-- A registered value is taken as it is, whatever structs are begun. -/
  | registered {t : GoType} {bench : Bench} {v : Json} :
      Dictionary.get? t.spelling bench.registry = some v → Run types (.type t) bench (.ok v) bench
  | leaf {t : GoType} {bench : Bench} {result : Except ExampleError Json} :
      Dictionary.get? t.spelling bench.registry = none → layer types t = .leaf result →
        Run types (.type t) bench result bench
  | wrap {t inner : GoType} {dress : Json → Json} {bench after : Bench}
      {result : Except ExampleError Json} :
      Dictionary.get? t.spelling bench.registry = none → layer types t = .wrap inner dress →
        Run types (.type inner) bench result after →
          Run types (.type t) bench (result.map dress) after
  /-- A struct that is begun is not begun again. -/
  | refused {t : GoType} {fields : List (Field GoType)} {bench : Bench} :
      Dictionary.get? t.spelling bench.registry = none → layer types t = .struct fields →
        t.spelling ∈ bench.unfinished →
          Run types (.type t) bench (.error (.recursive t.spelling)) bench
  | struct {t : GoType} {fields : List (Field GoType)} {bench after : Bench}
      {result : Except ExampleError Json} :
      Dictionary.get? t.spelling bench.registry = none → layer types t = .struct fields →
        t.spelling ∉ bench.unfinished →
          Run types (.fields fields []) ⟨bench.registry, t.spelling :: bench.unfinished⟩ result after →
            Run types (.type t) bench result (closed t result after)
  | noFields {members : Dictionary Json} {bench : Bench} :
      Run types (.fields [] members) bench (.ok (.obj members)) bench
  | hiddenField {f : Field GoType} {fields : List (Field GoType)} {members : Dictionary Json}
      {bench after : Bench} {result : Except ExampleError Json} :
      ¬isExported f.name = true → Run types (.fields fields members) bench result after →
        Run types (.fields (f :: fields) members) bench result after
  | failedField {f : Field GoType} {fields : List (Field GoType)} {members : Dictionary Json}
      {bench after : Bench} {e : ExampleError} :
      isExported f.name = true → Run types (.type f.type) bench (.error e) after →
        Run types (.fields (f :: fields) members) bench (.error e) after
  | field {f : Field GoType} {fields : List (Field GoType)} {members : Dictionary Json} {v : Json}
      {bench middle after : Bench} {result : Except ExampleError Json} :
      isExported f.name = true → Run types (.type f.type) bench (.ok v) middle →
        Run types (.fields fields (Dictionary.set f.name v members)) middle result after →
          Run types (.fields (f :: fields) members) bench result after

/-! ## §B Every answer comes from a run -/

/-- **`Ran types fuel`** — the answers that are reached within some steps come from runs. -/
structure Ran (types : Declarations) (fuel : Nat) : Prop where
  ofType : ∀ t bench result after, typeWithin types fuel t bench = some (result, after) →
    Run types (.type t) bench result after
  ofStruct : ∀ t fields bench result after, Dictionary.get? t.spelling bench.registry = none →
    layer types t = .struct fields →
      keep t (structWithin types fuel t.spelling fields bench) = some (result, after) →
        Run types (.type t) bench result after
  ofFields : ∀ fields members bench result after,
    fieldsWithin types fuel fields members bench = some (result, after) →
      Run types (.fields fields members) bench (result.map Json.obj) after

section Answers

variable {types : Declarations} {fuel : Nat}

theorem Ran.ofType_succ (h : Ran types fuel) (t : GoType) (bench : Bench)
    (result : Except ExampleError Json) (after : Bench)
    (hanswer : typeWithin types (fuel + 1) t bench = some (result, after)) :
    Run types (.type t) bench result after := by
  rw [typeWithin_succ] at hanswer
  cases hget : Dictionary.get? t.spelling bench.registry with
  | some value =>
      rw [hget] at hanswer
      cases hanswer
      exact .registered hget
  | none =>
      rw [hget] at hanswer
      cases hlayer : layer types t with
      | leaf known =>
          rw [hlayer] at hanswer
          cases hanswer
          exact .leaf hget hlayer
      | wrap inner dress =>
          rw [hlayer] at hanswer
          obtain ⟨before, hinner, hdressed⟩ := Answer.map_eq_some hanswer
          cases hdressed
          exact .wrap hget hlayer (h.ofType inner bench before.1 before.2 hinner)
      | struct fields =>
          rw [hlayer] at hanswer
          exact h.ofStruct t fields bench result after hget hlayer hanswer

/-- What `keep` makes of a struct whose fields are done. -/
theorem keep_closed (t : GoType) (result : Except ExampleError Json) (bench : Bench) :
    keep t (some (result, { bench with unfinished := bench.unfinished.tail })) =
      some (result, closed t result bench) := by
  unfold keep closed
  split
  · rename_i heq
    cases heq
    rfl
  · rename_i hnot
    split
    · exact absurd rfl (hnot _ _ _ rfl)
    · rfl

theorem Ran.ofStruct_succ (h : Ran types fuel) (t : GoType) (fields : List (Field GoType))
    (bench : Bench) (result : Except ExampleError Json) (after : Bench)
    (hget : Dictionary.get? t.spelling bench.registry = none)
    (hlayer : layer types t = .struct fields)
    (hanswer : keep t (structWithin types (fuel + 1) t.spelling fields bench) =
      some (result, after)) : Run types (.type t) bench result after := by
  rw [structWithin] at hanswer
  by_cases hin : bench.unfinished.contains t.spelling = true
  · rw [if_pos hin] at hanswer
    rcases keep_some t (.error (.recursive t.spelling)) bench with hkeep | ⟨_, hvalue, -⟩
    · cases hkeep.symm.trans hanswer
      exact .refused hget hlayer (List.contains_iff_mem.mp hin)
    · cases hvalue
  · rw [if_neg hin] at hanswer
    have hnot : t.spelling ∉ bench.unfinished := fun hmem => hin (List.contains_iff_mem.mpr hmem)
    cases hfields : fieldsWithin types fuel fields []
        { bench with unfinished := t.spelling :: bench.unfinished } with
    | none =>
        rw [hfields, keep_none] at hanswer
        cases hanswer
    | some before =>
        obtain ⟨members, bench'⟩ := before
        rw [hfields] at hanswer
        cases (keep_closed t (members.map Json.obj) bench').symm.trans hanswer
        exact .struct hget hlayer hnot (h.ofFields fields [] _ members bench' hfields)

theorem Ran.ofFields_succ (h : Ran types fuel) (fields : List (Field GoType))
    (members : Dictionary Json) (bench : Bench) (result : Except ExampleError (Dictionary Json))
    (after : Bench)
    (hanswer : fieldsWithin types (fuel + 1) fields members bench = some (result, after)) :
    Run types (.fields fields members) bench (result.map Json.obj) after := by
  cases fields with
  | nil =>
      cases hanswer
      exact .noFields
  | cons f fields =>
      rw [fieldsWithin] at hanswer
      by_cases hexported : isExported f.name = true
      · rw [if_pos hexported] at hanswer
        cases hfirst : typeWithin types fuel f.type bench with
        | none =>
            rw [hfirst] at hanswer
            cases hanswer
        | some before =>
            obtain ⟨value, middle⟩ := before
            have hrun := h.ofType f.type bench value middle hfirst
            rw [hfirst] at hanswer
            cases value with
            | error e =>
                cases hanswer
                exact .failedField hexported hrun
            | ok v => exact .field hexported hrun (h.ofFields fields _ middle result after hanswer)
      · rw [if_neg hexported] at hanswer
        exact .hiddenField hexported (h.ofFields fields members bench result after hanswer)

theorem ran (types : Declarations) (fuel : Nat) : Ran types fuel := by
  induction fuel with
  | zero =>
      refine ⟨nofun, ?_, nofun⟩
      intro t fields bench result after _ _ hanswer
      rw [structWithin, keep_none] at hanswer
      cases hanswer
  | succ fuel ih => exact ⟨ih.ofType_succ, ih.ofStruct_succ, ih.ofFields_succ⟩

/-- Without circles of names the steps never run out. -/
theorem typeWithin_steps (hcircle : NoCircle types) (t : GoType) (bench : Bench) :
    typeWithin types (steps types t) t bench = some (ofType types t bench) := by
  obtain ⟨result, registry, hanswer⟩ :=
    (ending types (steps types t)).ofType t bench (typeEnds_steps hcircle t bench.unfinished)
  rw [ofType, hanswer, Option.getD_some]

/-- Without circles of names the example of every type comes from a run. -/
theorem run_ofType (hcircle : NoCircle types) (t : GoType) (bench : Bench) :
    Run types (.type t) bench (ofType types t bench).1 (ofType types t bench).2 :=
  (ran types _).ofType t bench _ _ (typeWithin_steps hcircle t bench)

end Answers

/-! ## §C Every struct that is begun is finished -/

section Finishing

variable {types : Declarations} {task : Task} {bench after : Bench}
  {result : Except ExampleError Json}

theorem closed_unfinished (t : GoType) (result : Except ExampleError Json) (bench : Bench) :
    (closed t result bench).unfinished = bench.unfinished.tail := by
  unfold closed
  split <;> rfl

theorem closed_registry (t : GoType) (result : Except ExampleError Json) (bench : Bench) :
    (closed t result bench).registry = bench.registry ∨
      ∃ name value, t = .named none name ∧ result = .ok value ∧
        (closed t result bench).registry = Dictionary.set t.spelling value bench.registry := by
  unfold closed
  split
  · exact Or.inr ⟨_, _, rfl, rfl, rfl⟩
  · exact Or.inl rfl

/-- Every struct that is begun on the way is finished, also where the run fails. -/
theorem Run.unfinished_eq (h : Run types task bench result after) :
    after.unfinished = bench.unfinished := by
  induction h with
  | registered _ => rfl
  | leaf _ _ => rfl
  | wrap _ _ _ ih => exact ih
  | refused _ _ _ => rfl
  | struct _ _ _ _ ih => rw [closed_unfinished, ih, List.tail_cons]
  | noFields => rfl
  | hiddenField _ _ ih => exact ih
  | failedField _ _ ih => exact ih
  | field _ _ _ ihfirst ihrest => rw [ihrest, ihfirst]

end Finishing

end RollCall.Example
