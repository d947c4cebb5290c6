import RollCall.Proofs.Example.Caching

/-!
# RollCall.Proofs.Example.Derivation — the types that have an example

`HasExample` says which value is an example of a type, one rule for each kind of type and without
any order of work: no steps, no structs begun, no values registered on the way. It is the meaning of
the recursion. A type is given a value exactly where the rules derive that value, and an error
exactly where they derive none.

The hard half is that every derived value is found. The recursion refuses a struct whose spelling is
among those begun, and a derivation knows nothing of that. A refusal would put the struct among its
own parts, and then there is no finite derivation.
-/

namespace RollCall.Example

/-! ## §A The rules -/

/-- A type is a struct, written out or by the name of a declaration that is one. -/
def IsStructType (types : Declarations) (t : GoType) : Prop :=
  (∃ fields, t = .struct fields) ∨
    ∃ name fields, t = .named none name ∧ Dictionary.get? name types = some (.struct fields)

/-- Values for the exported ones of a list of fields, in their order. -/
def Assignment (fields : List (Field GoType)) (assigned : List (Field GoType × Json)) : Prop :=
  assigned.map Prod.fst = fields.filter fun f => isExported f.name

/-- The object of assigned fields: of two fields with one name the later one counts. -/
def assignedObject (assigned : List (Field GoType × Json)) : Json :=
  .obj (Dictionary.ofList (assigned.map fun a => (a.1.name, a.2)))

/-- **`HasExample types registry t v`** — the value is an example of the type. -/
inductive HasExample (types : Declarations) (registry : Registry) : GoType → Json → Prop
  /-- A registered type has the registered value, and no other rule is for it. -/
  | registered {t : GoType} {v : Json} :
      Dictionary.get? t.spelling registry = some v → HasExample types registry t v
  | slice {elem : GoType} {v : Json} :
      Dictionary.get? (GoType.slice elem).spelling registry = none →
        HasExample types registry elem v → HasExample types registry (.slice elem) (.arr [v])
  | chan {elem : GoType} {v : Json} :
      Dictionary.get? (GoType.chan elem).spelling registry = none →
        HasExample types registry elem v → HasExample types registry (.chan elem) v
  | array {n : Nat} {elem : GoType} {v : Json} :
      Dictionary.get? (GoType.array (some n) elem).spelling registry = none →
        HasExample types registry elem v →
          HasExample types registry (.array (some n) elem) (.arr (List.replicate n v))
  | pointer {elem : GoType} {v : Json} :
      Dictionary.get? (GoType.pointer elem).spelling registry = none → IsStructType types elem →
        HasExample types registry elem v → HasExample types registry (.pointer elem) v
  | interface :
      Dictionary.get? GoType.interface.spelling registry = none →
        HasExample types registry .interface (.obj [])
  | struct {fields : List (Field GoType)} {assigned : List (Field GoType × Json)} :
      Dictionary.get? (GoType.struct fields).spelling registry = none →
        Assignment fields assigned → (∀ a ∈ assigned, HasExample types registry a.1.type a.2) →
          HasExample types registry (.struct fields) (assignedObject assigned)
  /-- The fields of a declared struct count, whether or not its type is registered. -/
  | declaredStruct {name : String} {fields : List (Field GoType)}
      {assigned : List (Field GoType × Json)} :
      Dictionary.get? (GoType.named none name).spelling registry = none →
        Dictionary.get? name types = some (.struct fields) →
          Assignment fields assigned → (∀ a ∈ assigned, HasExample types registry a.1.type a.2) →
            HasExample types registry (.named none name) (assignedObject assigned)
  | declared {name : String} {t : GoType} {v : Json} :
      Dictionary.get? (GoType.named none name).spelling registry = none →
        Dictionary.get? name types = some t → t.isStruct = false →
          HasExample types registry t v → HasExample types registry (.named none name) v

section Rules

variable {types : Declarations} {registry : Registry}

theorem leadsToStruct_iff (types : Declarations) (t : GoType) :
    leadsToStruct types t = true ↔ IsStructType types t := by
  unfold leadsToStruct IsStructType
  split
  · rename_i fields
    exact iff_of_true rfl (Or.inl ⟨fields, rfl⟩)
  · rename_i name
    cases hget : Dictionary.get? name types with
    | none => simp [hget]
    | some declared => cases declared <;> simp [GoType.isStruct, hget]
  · rename_i hstruct hnamed
    refine iff_of_false Bool.false_ne_true ?_
    rintro (⟨fields, rfl⟩ | ⟨name, fields, rfl, -⟩)
    · exact hstruct fields rfl
    · exact hnamed name rfl

theorem layer_declared {name : String} {t : GoType}
    (hget : Dictionary.get? name types = some t) (hstruct : t.isStruct = false) :
    layer types (.named none name) = .wrap t id := by
  rw [layer, hget]
  cases t with
  | struct fields => cases hstruct
  | _ => rfl

theorem layer_declaredStruct {name : String} {fields : List (Field GoType)}
    (hget : Dictionary.get? name types = some (.struct fields)) :
    layer types (.named none name) = .struct fields := by
  rw [layer, hget]

/-! ## §B The rules say what one layer after the other says -/

theorem HasExample.exemplifies {t : GoType} {v : Json} (h : HasExample types registry t v) :
    Exemplifies types registry t v := by
  induction h with
  | registered hget => exact .registered hget
  | slice hget _ ih => exact .wrap hget rfl ih
  | @chan elem v hget _ ih =>
      have hlayer : layer types (.chan elem) = .wrap elem id := rfl
      exact .wrap hget hlayer ih
  | array hget _ ih => exact .wrap hget rfl ih
  | @pointer elem v hget hleads _ ih =>
      have hlayer : layer types (.pointer elem) = .wrap elem id := by
        rw [layer, if_pos ((leadsToStruct_iff types elem).mpr hleads)]
      exact .wrap hget hlayer ih
  | interface hget => exact .leaf hget rfl
  | struct hget hassigned _ ih => exact .struct hget rfl hassigned ih
  | declaredStruct hget hdeclared hassigned _ ih =>
      exact .struct hget (layer_declaredStruct hdeclared) hassigned ih
  | declared hget hdeclared hstruct _ ih =>
      exact .wrap hget (layer_declared hdeclared hstruct) ih

/-- A wrapping layer is one of the rules for types made from a single other type. -/
theorem hasExample_of_wrap {t inner : GoType} {dress : Json → Json} {v : Json}
    (hget : Dictionary.get? t.spelling registry = none) (hlayer : layer types t = .wrap inner dress)
    (hinner : HasExample types registry inner v) : HasExample types registry t (dress v) := by
  cases t with
  | slice elem =>
      cases hlayer
      exact .slice hget hinner
  | chan elem =>
      cases hlayer
      exact .chan hget hinner
  | array length elem =>
      cases length with
      | none => cases hlayer
      | some n =>
          cases hlayer
          exact .array hget hinner
  | pointer elem =>
      rw [layer] at hlayer
      split at hlayer
      · rename_i hleads
        cases hlayer
        exact .pointer hget ((leadsToStruct_iff types _).mp hleads) hinner
      · cases hlayer
  | named package name =>
      cases package with
      | some package => cases hlayer
      | none =>
          rcases layer_wrap hlayer with hholds | ⟨name', hname, hdeclared, hstruct⟩
          · cases hholds
          · cases hname
            -- a name is given the value of its declaration as it is
            have hdress := hlayer.symm.trans (layer_declared hdeclared hstruct)
            cases hdress
            exact .declared hget hdeclared hstruct hinner
  | _ => cases hlayer

theorem Exemplifies.hasExample {t : GoType} {v : Json} (h : Exemplifies types registry t v) :
    HasExample types registry t v := by
  induction h with
  | registered hget => exact .registered hget
  | @leaf t v hget hlayer =>
      unfold layer at hlayer
      split at hlayer
      case h_5 => split at hlayer <;> cases hlayer
      case h_6 =>
        cases hlayer
        exact .interface hget
      case h_7 => split at hlayer <;> cases hlayer
      all_goals cases hlayer
  | wrap hget hlayer _ ih => exact hasExample_of_wrap hget hlayer ih
  | struct hget hlayer hassigned _ ih =>
      rcases layer_struct hlayer with rfl | ⟨name, rfl, hdeclared⟩
      · exact .struct hget hassigned ih
      · exact .declaredStruct hget hdeclared hassigned ih

theorem exemplifies_iff {t : GoType} {v : Json} :
    Exemplifies types registry t v ↔ HasExample types registry t v :=
  ⟨Exemplifies.hasExample, HasExample.exemplifies⟩

end Rules

/-! ## §C What is found is what the rules derive -/

section Answers

variable {types : Declarations} {registry : Registry} {t : GoType}

/-- Without registering on the way the recursion finds exactly the derived values. -/
theorem uncached_ok_iff (hcircle : NoCircle types) (hspelling : Unambiguous types [t]) (v : Json) :
    Uncached.ofType types registry t = .ok v ↔ Exemplifies types registry t v := by
  have hanswer := Uncached.typeWithin_steps hcircle registry t
  constructor
  · intro hv
    rw [hv] at hanswer
    exact (Uncached.built types registry _).ofType t [] v hanswer
  · intro hv
    have ht : Occurs types [t] t := occurs_of_queried (List.mem_singleton_self t)
    exact Uncached.typeWithin_exemplifies (fun _ _ hocc hpart => hocc.part hpart) hspelling hv ht
      (fun _ _ => List.not_mem_nil) hanswer

end Answers

/-- Where the declared names have no circle without a struct and no two types that occur are spelled
alike, building an example on a bench with no struct begun ends; it gives a value exactly where the
rules derive that value, and an error exactly where they derive none. -/
theorem ofType_ok_iff_hasExample (types : Declarations) (registry : Registry) (t : GoType)
    (hcircle : NoCircle types) (hspelling : Unambiguous types [t]) :
    typeWithin types (steps types t) t (.fresh registry) = some (ofType types t (.fresh registry)) ∧
      (∀ v, (ofType types t (.fresh registry)).1 = .ok v ↔ HasExample types registry t v) ∧
      ((∃ e, (ofType types t (.fresh registry)).1 = .error e) ↔
        ¬∃ v, HasExample types registry t v) := by
  obtain ⟨result, grown, hends⟩ := (ending types (steps types t)).ofType t (.fresh registry)
    (typeEnds_steps hcircle t [])
  obtain ⟨registry', hcached, -⟩ := ofType_uncached hcircle hspelling
    (grown_initial types [t] registry) (occurs_of_queried (List.mem_singleton_self t))
  have hok : ∀ v, (ofType types t (.fresh registry)).1 = .ok v ↔ HasExample types registry t v := by
    intro v
    rw [hcached, ← exemplifies_iff]
    exact uncached_ok_iff hcircle hspelling v
  refine ⟨by rw [ofType, hends, Option.getD_some], hok, ?_⟩
  constructor
  · rintro ⟨e, herror⟩ ⟨v, hv⟩
    rw [(hok v).mpr hv] at herror
    cases herror
  · intro hnone
    cases hresult : (ofType types t (.fresh registry)).1 with
    | error e => exact ⟨e, rfl⟩
    | ok v => exact absurd ⟨v, (hok v).mp hresult⟩ hnone

/-- A struct that holds a pointer to itself has an example where the pointer is registered, and none
where it is not. -/
theorem hasExample_registeredPointer :
    HasExample sampleTypes [("*Loop", .null), ("string", .null)] (.plain "Loop")
        (.obj [("Leaf", .obj [("Name", .null)]), ("Self", .null)]) ∧
      ¬∃ v, HasExample sampleTypes [("string", .null)] (.plain "Loop") v := by
  have hspelling : Unambiguous sampleTypes [.plain "Loop"] := by
    apply unambiguous_sampleParts
    intro t ht
    cases List.mem_singleton.mp ht
    simp [sampleParts]
  obtain ⟨-, hcut, -⟩ := ofType_ok_iff_hasExample sampleTypes [("*Loop", .null), ("string", .null)]
    (.plain "Loop") noCircle_sampleTypes hspelling
  obtain ⟨-, -, hopen⟩ := ofType_ok_iff_hasExample sampleTypes [("string", .null)] (.plain "Loop")
    noCircle_sampleTypes hspelling
  exact ⟨(hcut _).mp rfl, hopen.mp ⟨.recursive "Loop", rfl⟩⟩

end RollCall.Example
