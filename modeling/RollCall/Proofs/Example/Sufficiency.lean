import RollCall.Proofs.Example.Termination

/-!
# RollCall.Proofs.Example.Sufficiency — the steps suffice wherever building ends

Declared names can come back to themselves without a struct, and building still ends where nothing
leads into that circle or a registered value cuts it. The count of steps needs no more than that it
ends. A name that was followed twice between two structs would find the same bench both times, so it
would be answered in fewer steps than it takes. Each name is then followed once, as it is where there
are no circles at all, and the same count applies.
-/

namespace RollCall.Example

/-! ## §A Names that take more steps than a type -/

/-- The type has an answer on the bench within the steps. -/
def Answered (types : Declarations) (fuel : Nat) (t : GoType) (bench : Bench) : Prop :=
  ∃ answer, typeWithin types fuel t bench = some answer

/-- **`Outlasts types bench name t`** — whenever some steps answer the name, fewer steps answer the
type on the same bench. -/
def Outlasts (types : Declarations) (bench : Bench) (name : String) (t : GoType) : Prop :=
  ∀ n, Answered types n (.named none name) bench → ∃ m, m < n ∧ Answered types m t bench

section Outlasting

variable {types : Declarations} {bench : Bench} {t inner : GoType} {dress : Json → Json}

/-- The type that is wrapped is answered one step earlier. -/
theorem Answered.wrap {n : Nat} (h : Answered types n t bench)
    (hget : Dictionary.get? t.spelling bench.registry = none)
    (hlayer : layer types t = .wrap inner dress) : ∃ m, m < n ∧ Answered types m inner bench := by
  obtain ⟨answer, hanswer⟩ := h
  cases n with
  | zero => cases hanswer
  | succ n =>
      rw [typeWithin_succ, hget, hlayer] at hanswer
      obtain ⟨before, hinner, -⟩ := Answer.map_eq_some hanswer
      exact ⟨n, Nat.lt_succ_self n, before, hinner⟩

theorem Outlasts.wrap {name : String} (h : Outlasts types bench name t)
    (hget : Dictionary.get? t.spelling bench.registry = none)
    (hlayer : layer types t = .wrap inner dress) : Outlasts types bench name inner := by
  intro n hn
  obtain ⟨m, hm, hanswered⟩ := h n hn
  obtain ⟨k, hk, hinner⟩ := hanswered.wrap hget hlayer
  exact ⟨k, Nat.lt_trans hk hm, hinner⟩

/-- A name that has an answer does not outlast itself: there is a least number of steps for it. -/
theorem Outlasts.irrefl {name : String} (h : Outlasts types bench name (.named none name)) (n : Nat) :
    ¬Answered types n (.named none name) bench := by
  induction n using Nat.strong_induction_on with
  | _ n ih =>
      intro hn
      obtain ⟨m, hm, hanswered⟩ := h n hn
      exact ih m hm hanswered

end Outlasting

/-! ## §B Counting -/

/-- **`Sufficient types keys fuel`** — wherever the count of structs, names and nodes says that the
steps suffice, an answer that is reached with any other number of steps is reached with these. -/
structure Sufficient (types : Declarations) (keys : List String) (fuel : Nat) : Prop where
  ofType : ∀ t bench visited m answer, structKeys t ⊆ keys →
    (∀ name ∈ visited, Outlasts types bench name t) →
      unbegun keys bench.unfinished * span types + unvisited types visited + weight t + 1 ≤ fuel →
        typeWithin types m t bench = some answer → typeWithin types fuel t bench = some answer
  ofStruct : ∀ key fields bench m answer, structKeysFields fields ⊆ keys → 1 ≤ fuel →
    (key ∉ bench.unfinished → unbegun keys (key :: bench.unfinished) * span types +
      unvisited types [] + weightFields fields + 1 ≤ fuel) →
        structWithin types m key fields bench = some answer →
          structWithin types fuel key fields bench = some answer
  ofFields : ∀ fields members bench m answer, structKeysFields fields ⊆ keys →
    unbegun keys bench.unfinished * span types + unvisited types [] + weightFields fields ≤ fuel →
      fieldsWithin types m fields members bench = some answer →
        fieldsWithin types fuel fields members bench = some answer

section Counting

variable {types : Declarations} {keys : List String} {fuel : Nat}

theorem Sufficient.ofType_succ (hkeys : Keyed types keys) (h : Sufficient types keys fuel)
    {t : GoType} {bench : Bench} {visited : List String} {m : Nat}
    {answer : Except ExampleError Json × Bench} (hin : structKeys t ⊆ keys)
    (hvisited : ∀ name ∈ visited, Outlasts types bench name t)
    (hfuel : unbegun keys bench.unfinished * span types + unvisited types visited + weight t ≤ fuel)
    (hanswer : typeWithin types m t bench = some answer) :
    typeWithin types (fuel + 1) t bench = some answer := by
  cases m with
  | zero => cases hanswer
  | succ m =>
      apply typeWithin_carry hanswer
      · intro inner dress before hget hlayer hbefore
        have hbelow : ∀ name ∈ visited, Outlasts types bench name inner :=
          fun name hname => (hvisited name hname).wrap hget hlayer
        rcases layer_wrap hlayer with hholds | ⟨name, rfl, hdeclared, -⟩
        · have hlt := weight_holds_lt hholds
          exact h.ofType inner bench visited m before
            (List.Subset.trans (structKeys_holds hholds) hin) hbelow (by omega) hbefore
        · -- a name that was visited before would outlast itself
          have hnot : name ∉ visited := fun hmem =>
            (hvisited name hmem).irrefl (m + 1) ⟨answer, hanswer⟩
          have hpaid := unvisited_cons_add_le hdeclared hnot
          refine h.ofType inner bench (name :: visited) m before (hkeys name inner hdeclared).2 ?_
            (by omega) hbefore
          intro other hother
          rcases List.mem_cons.mp hother with rfl | hother
          · exact fun n hn => hn.wrap hget hlayer
          · exact hbelow other hother
      · intro fields before hlayer hbefore
        obtain ⟨hkey, hfields, hweight⟩ := layer_struct_counted hkeys hin hlayer
        have hpos := weight_pos t
        refine h.ofStruct t.spelling fields bench m before hfields (by omega) (fun hnot => ?_) hbefore
        have hpaid := unbegun_cons_mul_le hkey hnot (span types)
        have hspan : span types = 2 * unvisited types [] + 2 := rfl
        omega

theorem Sufficient.ofStruct_succ (h : Sufficient types keys fuel) {key : String}
    {fields : List (Field GoType)} {bench : Bench} {m : Nat}
    {answer : Except ExampleError Json × Bench} (hfields : structKeysFields fields ⊆ keys)
    (hfuel : key ∉ bench.unfinished → unbegun keys (key :: bench.unfinished) * span types +
      unvisited types [] + weightFields fields ≤ fuel)
    (hanswer : structWithin types m key fields bench = some answer) :
    structWithin types (fuel + 1) key fields bench = some answer := by
  cases m with
  | zero => cases hanswer
  | succ m =>
      apply structWithin_carry hanswer
      intro before hnot hbefore
      exact h.ofFields fields [] _ m before hfields (hfuel hnot) hbefore

theorem Sufficient.ofFields_succ (h : Sufficient types keys fuel) {fields : List (Field GoType)}
    {members : Dictionary Json} {bench : Bench} {m : Nat}
    {answer : Except ExampleError (Dictionary Json) × Bench}
    (hfields : structKeysFields fields ⊆ keys)
    (hfuel : unbegun keys bench.unfinished * span types + unvisited types [] + weightFields fields ≤
      fuel + 1) (hanswer : fieldsWithin types m fields members bench = some answer) :
    fieldsWithin types (fuel + 1) fields members bench = some answer := by
  cases m with
  | zero => cases hanswer
  | succ m =>
      cases fields with
      | nil => exact hanswer
      | cons field fields =>
          rw [weightFields] at hfuel
          rw [structKeysFields] at hfields
          have hpos := weightFields_pos fields
          apply fieldsWithin_carry hanswer
          · intro before hbefore
            exact h.ofType field.type bench [] m before
              (fun key hkey => hfields (List.mem_append_left _ hkey)) nofun (by omega) hbefore
          · intro others middle after hunfinished hafter
            refine h.ofFields fields others middle m after
              (fun key hkey => hfields (List.mem_append_right _ hkey)) ?_ hafter
            rw [hunfinished]
            omega

theorem sufficient (hkeys : Keyed types keys) (fuel : Nat) : Sufficient types keys fuel := by
  induction fuel with
  | zero =>
      refine ⟨?_, ?_, ?_⟩
      · intro t bench visited m answer _ _ hfuel
        omega
      · intro key fields bench m answer _ hfuel
        omega
      · intro fields members bench m answer _ hfuel
        have hpos := weightFields_pos fields
        omega
  | succ fuel ih =>
      refine ⟨?_, ?_, ?_⟩
      · intro t bench visited m answer hin hvisited hfuel
        exact ih.ofType_succ hkeys hin hvisited (by omega)
      · intro key fields bench m answer hfields _ hfuel
        exact ih.ofStruct_succ hfields fun hnot => by have hle := hfuel hnot; omega
      · intro fields members bench m answer hfields hfuel
        exact ih.ofFields_succ hfields hfuel

/-- An answer that is reached with any number of steps is the example of the type. -/
theorem ofType_eq_of_answer {t : GoType} {bench : Bench} {n : Nat}
    {answer : Except ExampleError Json × Bench}
    (h : typeWithin types n t bench = some answer) : ofType types t bench = answer := by
  have hsteps := (sufficient (keyed_allKeys types t) (steps types t)).ofType t bench [] n answer
    (List.subset_append_left _ _) nofun (count_le_steps types t bench.unfinished) h
  rw [ofType, hsteps, Option.getD_some]

end Counting

end RollCall.Example
