import RollCall.Proofs.Example.Derivation

/-!
# RollCall.Proofs.Example.Registration — registering more types

A type that is registered has a value at once, and the types below it are not looked at. So a further
entry can only cut a derivation short: whatever was derived without the entry is derived with it, or
is not needed any more. The values may be others, because the values of the entries may be.
-/

namespace RollCall.Example

/-! ## §A Derivations under more entries -/

section Derivations

variable {types : Declarations} {fewer more registry : Registry} {t : GoType}

/-- A registered type has an example, so what is left is a type to be built. -/
theorem exemplifies_or_unregistered (types : Declarations) (registry : Registry) (t : GoType) :
    (∃ v, Exemplifies types registry t v) ∨ Dictionary.get? t.spelling registry = none := by
  cases hget : Dictionary.get? t.spelling registry with
  | none => exact Or.inr rfl
  | some v => exact Or.inl ⟨v, .registered hget⟩

/-- Values can be assigned to fields that all have examples. -/
theorem exists_assigned {fields : List (Field GoType)}
    (h : ∀ f ∈ fields, ∃ v, Exemplifies types registry f.type v) :
    ∃ assigned : List (Field GoType × Json), assigned.map Prod.fst = fields ∧
      ∀ a ∈ assigned, Exemplifies types registry a.1.type a.2 := by
  induction fields with
  | nil => exact ⟨[], rfl, fun _ ha => absurd ha List.not_mem_nil⟩
  | cons f fields ih =>
      obtain ⟨v, hv⟩ := h f List.mem_cons_self
      obtain ⟨assigned, hfields, hvalues⟩ := ih fun g hg => h g (List.mem_cons_of_mem _ hg)
      refine ⟨(f, v) :: assigned, by rw [List.map_cons, hfields], ?_⟩
      intro a ha
      rcases List.mem_cons.mp ha with rfl | ha
      · exact hv
      · exact hvalues a ha

/-- A type that has an example has one under more entries, whatever their values. -/
theorem Exemplifies.of_more (hmore : Dictionary.names fewer ⊆ Dictionary.names more) {v : Json}
    (h : Exemplifies types fewer t v) : ∃ w, Exemplifies types more t w := by
  induction h with
  | @registered t v hget =>
      rcases exemplifies_or_unregistered types more t with hdone | hnone
      · exact hdone
      · have hin : t.spelling ∈ Dictionary.names fewer :=
          List.mem_map.mpr ⟨_, Dictionary.mem_of_get? hget, rfl⟩
        exact absurd (hmore hin) ((Dictionary.get?_eq_none_iff _ _).mp hnone)
  | @leaf t v _ hlayer =>
      rcases exemplifies_or_unregistered types more t with hdone | hnone
      · exact hdone
      · exact ⟨v, .leaf hnone hlayer⟩
  | @wrap t inner dress v _ hlayer _ ih =>
      rcases exemplifies_or_unregistered types more t with hdone | hnone
      · exact hdone
      · obtain ⟨w, hw⟩ := ih
        exact ⟨dress w, .wrap hnone hlayer hw⟩
  | @struct t fields assigned _ hlayer hassigned _ ih =>
      rcases exemplifies_or_unregistered types more t with hdone | hnone
      · exact hdone
      · -- the fields have examples one by one, so the struct has values to assign
        have hfields : ∀ f ∈ fields.filter (fun f => isExported f.name),
            ∃ w, Exemplifies types more f.type w := by
          intro f hf
          rw [← hassigned] at hf
          obtain ⟨a, ha, rfl⟩ := List.mem_map.mp hf
          exact ih a ha
        obtain ⟨others, hothers, hvalues⟩ := exists_assigned hfields
        exact ⟨_, .struct hnone hlayer hothers hvalues⟩

end Derivations

/-! ## §B Types and methods under more entries -/

theorem Unambiguous.of_mem {types : Declarations} {queried : List GoType} {t : GoType}
    (h : Unambiguous types queried) (ht : t ∈ queried) : Unambiguous types [t] := by
  have hoccurs : ∀ u, Occurs types [t] u → Occurs types queried u := by
    rintro u ⟨root, hroot | hdeclared, hreach⟩
    · cases List.mem_singleton.mp hroot
      exact ⟨t, Or.inl ht, hreach⟩
    · exact ⟨root, Or.inr hdeclared, hreach⟩
  intro u w hu hw
  exact h u w (hoccurs u hu) (hoccurs w hw)

namespace Uncached

variable {types : Declarations} {registry fewer more : Registry}

theorem ofType_isOk_of_more (hcircle : NoCircle types) {t : GoType}
    (hspelling : Unambiguous types [t])
    (hmore : Dictionary.names fewer ⊆ Dictionary.names more)
    (h : ∃ v, ofType types fewer t = .ok v) : ∃ w, ofType types more t = .ok w := by
  obtain ⟨v, hv⟩ := h
  obtain ⟨w, hw⟩ := ((uncached_ok_iff hcircle hspelling v).mp hv).of_more hmore
  exact ⟨w, (uncached_ok_iff hcircle hspelling w).mpr hw⟩

theorem bind_isOk_iff {α β : Type} {x : Except ExampleError α} {f : α → Except ExampleError β} :
    (∃ b, x >>= f = .ok b) ↔ ∃ a, x = .ok a ∧ ∃ b, f a = .ok b := by
  constructor
  · rintro ⟨b, hb⟩
    cases x with
    | error e => cases hb
    | ok a => exact ⟨a, rfl, b, hb⟩
  · rintro ⟨a, rfl, hb⟩
    exact hb

theorem mapM_isOk_iff {ts : List GoType} {f : GoType → Except ExampleError Json} :
    (∃ vs, ts.mapM f = .ok vs) ↔ ∀ t ∈ ts, ∃ v, f t = .ok v := by
  induction ts with
  | nil =>
      refine iff_of_true ⟨[], rfl⟩ ?_
      exact fun _ ht => absurd ht List.not_mem_nil
  | cons t ts ih =>
      rw [List.mapM_cons, bind_isOk_iff, List.forall_mem_cons, ← ih]
      constructor
      · rintro ⟨v, hv, hrest⟩
        obtain ⟨vs, hvs, -⟩ := bind_isOk_iff.mp hrest
        exact ⟨⟨v, hv⟩, vs, hvs⟩
      · rintro ⟨⟨v, hv⟩, vs, hvs⟩
        exact ⟨v, hv, bind_isOk_iff.mpr ⟨vs, hvs, v :: vs, rfl⟩⟩

/-- A method has its texts exactly if every type that it asks for has an example. -/
theorem ofMethod_isOk_iff {params results : List GoType} :
    (∃ texts, ofMethod types registry params results = .ok texts) ↔
      ∀ t ∈ params.drop 1 ++ results.take 1, ∃ v, ofType types registry t = .ok v := by
  rw [List.forall_mem_append, ← mapM_isOk_iff, ofMethod, bind_isOk_iff]
  constructor
  · rintro ⟨inputs, hinputs, hrest⟩
    refine ⟨⟨inputs, hinputs⟩, ?_⟩
    cases results with
    | nil => exact fun _ ht => absurd ht List.not_mem_nil
    | cons result others =>
        obtain ⟨v, hv, -⟩ := bind_isOk_iff.mp hrest
        rw [List.take_succ_cons, List.take_zero, List.forall_mem_singleton]
        exact ⟨v, hv⟩
  · rintro ⟨⟨inputs, hinputs⟩, hresults⟩
    refine ⟨inputs, hinputs, ?_⟩
    cases results with
    | nil => exact ⟨_, rfl⟩
    | cons result others =>
        obtain ⟨v, hv⟩ := hresults result List.mem_cons_self
        exact bind_isOk_iff.mpr ⟨v, hv, _, rfl⟩

end Uncached

end RollCall.Example
