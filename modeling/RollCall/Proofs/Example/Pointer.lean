import RollCall.Proofs.Example.Termination

/-!
# RollCall.Proofs.Example.Pointer — pointers to names that stand for a struct

The value of a name follows its declaration from name to name until a struct is reached. The value of
a pointer asks whether it leads to a struct, and this looks at one declaration only. Both agree on a
name that is declared as a struct. A name that is declared by the name of one stands for the same
struct, it has the struct's value, and a pointer to it has none.
-/

namespace RollCall.Example

/-- **`StructChain types name`** — the declarations lead from the name to a struct, through any number
of further names. -/
inductive StructChain (types : Declarations) : String → Prop
  | struct {name : String} {fields : List (Field GoType)} :
      Dictionary.get? name types = some (.struct fields) → StructChain types name
  | next {name other : String} :
      Dictionary.get? name types = some (.named none other) → StructChain types other →
        StructChain types name

section Pointers

variable {types : Declarations} {name : String} {bench : Bench}

/-- A pointer to a name that is declared as a struct has what the name has. -/
theorem ofType_pointer_struct (hcircle : NoCircle types) {fields : List (Field GoType)}
    (hget : Dictionary.get? name types = some (.struct fields))
    (hfree : Dictionary.get? (GoType.pointer (.plain name)).spelling bench.registry = none) :
    ofType types (.pointer (.plain name)) bench = ofType types (.plain name) bench := by
  have hlayer : layer types (.pointer (.plain name)) = .wrap (.plain name) id := by
    have hleads : leadsToStruct types (.plain name) = true := by
      rw [GoType.plain, leadsToStruct, hget]
      rfl
    rw [layer, if_pos hleads]
  have hpointer := typeWithin_steps hcircle (.pointer (.plain name)) bench
  obtain ⟨fuel, hfuel⟩ :=
    Nat.exists_eq_succ_of_ne_zero (steps_pos types (.pointer (.plain name))).ne'
  rw [hfuel, typeWithin_succ, hfree, hlayer] at hpointer
  dsimp only at hpointer
  rw [Answer.map_id] at hpointer
  exact typeWithin_unique hpointer (typeWithin_steps hcircle (.plain name) bench)

/-- A pointer to a name that is declared by another name has no example. -/
theorem ofType_pointer_renamed {other : String}
    (hget : Dictionary.get? name types = some (.named none other))
    (hfree : Dictionary.get? (GoType.pointer (.plain name)).spelling bench.registry = none) :
    ofType types (.pointer (.plain name)) bench =
      (.error (.noExample (GoType.pointer (.plain name)).spelling), bench) := by
  have hlayer : layer types (.pointer (.plain name)) =
      .leaf (.error (.noExample (GoType.pointer (.plain name)).spelling)) := by
    have hleads : ¬leadsToStruct types (.plain name) = true := by
      rw [GoType.plain, leadsToStruct, hget]
      exact Bool.false_ne_true
    rw [layer, if_neg hleads]
  obtain ⟨fuel, hfuel⟩ :=
    Nat.exists_eq_succ_of_ne_zero (steps_pos types (.pointer (.plain name))).ne'
  rw [ofType, hfuel, typeWithin_succ, hfree, hlayer]
  rfl

end Pointers

/-- Of the names whose declarations lead to a struct, those that are declared as one have the same
example as a pointer to them, be it a value or an error, and leave the same bench. A pointer to any
other of them has no example. So the two results are the same exactly for the names that are declared
as a struct, and for those whose own example fails over that very pointer. -/
theorem ofType_pointer_chain (types : Declarations) (name : String) (bench : Bench)
    (hcircle : NoCircle types) (hchain : StructChain types name)
    (hfree : Dictionary.get? (GoType.pointer (.plain name)).spelling bench.registry = none) :
    ((∃ fields, Dictionary.get? name types = some (.struct fields)) →
        ofType types (.pointer (.plain name)) bench = ofType types (.plain name) bench) ∧
      (¬(∃ fields, Dictionary.get? name types = some (.struct fields)) →
        ofType types (.pointer (.plain name)) bench =
          (.error (.noExample (GoType.pointer (.plain name)).spelling), bench)) ∧
      ((ofType types (.pointer (.plain name)) bench).1 = (ofType types (.plain name) bench).1 ↔
        (∃ fields, Dictionary.get? name types = some (.struct fields)) ∨
          (ofType types (.plain name) bench).1 =
            .error (.noExample (GoType.pointer (.plain name)).spelling)) := by
  cases hchain with
  | @struct _ fields hget =>
      have hsame := ofType_pointer_struct hcircle hget hfree
      refine ⟨fun _ => hsame, fun hnot => absurd ⟨fields, hget⟩ hnot, ?_⟩
      exact iff_of_true (congrArg Prod.fst hsame) (Or.inl ⟨fields, hget⟩)
  | @next _ other hget hrest =>
      have hnot : ¬∃ fields, Dictionary.get? name types = some (.struct fields) := by
        rintro ⟨fields, hfields⟩
        cases hget.symm.trans hfields
      have hfails := ofType_pointer_renamed hget hfree
      refine ⟨fun hstruct => absurd hstruct hnot, fun _ => hfails, ?_⟩
      rw [hfails]
      constructor
      · exact fun heq => Or.inr heq.symm
      · rintro (hstruct | heq)
        · exact absurd hstruct hnot
        · exact heq.symm

/-- A struct under two names. -/
def renamedTypes : Declarations :=
  [("Info", .struct [⟨"Size", .plain "uint64", false⟩]), ("Renamed", .plain "Info")]

/-- The second name has the example of the struct, and a pointer to it has none. -/
theorem ofType_pointer_renamedTypes :
    (ofType renamedTypes (.plain "Renamed") (.fresh [("uint64", .int 42)])).1 =
        .ok (.obj [("Size", .int 42)]) ∧
      ofType renamedTypes (.pointer (.plain "Renamed")) (.fresh [("uint64", .int 42)]) =
        (.error (.noExample "*Renamed"), .fresh [("uint64", .int 42)]) := by
  have hcircle : NoCircle renamedTypes := by
    refine noCircle_of_rank (fun name => if name = "Renamed" then 1 else 0) ?_
    rintro outer inner ⟨declared, hget, hbottom⟩
    have hmem := Dictionary.mem_of_get? hget
    simp only [renamedTypes, List.mem_cons, Prod.mk.injEq, List.not_mem_nil, or_false] at hmem
    rcases hmem with ⟨rfl, rfl⟩ | ⟨rfl, rfl⟩
    · cases hbottom
    · cases hbottom
      decide
  have hchain : StructChain renamedTypes "Renamed" := .next rfl (.struct rfl)
  obtain ⟨-, hrenamed, -⟩ := ofType_pointer_chain renamedTypes "Renamed"
    (.fresh [("uint64", .int 42)]) hcircle hchain rfl
  refine ⟨rfl, hrenamed ?_⟩
  rintro ⟨fields, hfields⟩
  cases hfields

end RollCall.Example
