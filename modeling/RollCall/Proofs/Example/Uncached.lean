import RollCall.Proofs.Example.Steps

/-!
# RollCall.Proofs.Example.Uncached — building without registering

`Uncached` is the recursion over a registry that never changes. Nothing is registered on the way, and
every type is built anew whenever it is met.

What it builds can be said without steps and without structs begun: `Exemplifies` derives the value of
a type from the values of its parts. A derivation is finite, so a type with an example is never a part
of itself, and the structs that the recursion has begun cannot stand in the way of one.
-/

namespace RollCall.Example

open Relation (ReflTransGen TransGen)

/-! ## §A The recursion -/

namespace Uncached

mutual

/-- The example of a type. -/
def typeWithin (types : Declarations) (registry : Registry) :
    Nat → GoType → List String → Option (Except ExampleError Json)
  | 0, _, _ => none
  | fuel + 1, t, unfinished =>
    match Dictionary.get? t.spelling registry with
    | some value => some (.ok value)
    | none =>
      match layer types t with
      | .leaf result => some result
      | .wrap inner dress => (typeWithin types registry fuel inner unfinished).map (Except.map dress)
      | .struct fields => structWithin types registry fuel t.spelling fields unfinished

/-- The example of a struct known by a spelling. -/
def structWithin (types : Declarations) (registry : Registry) :
    Nat → String → List (Field GoType) → List String → Option (Except ExampleError Json)
  | 0, _, _, _ => none
  | fuel + 1, key, fields, unfinished =>
    if unfinished.contains key then some (.error (.recursive key))
    else (fieldsWithin types registry fuel fields [] (key :: unfinished)).map (Except.map Json.obj)

/-- The examples of the exported fields, added to the members built before. -/
def fieldsWithin (types : Declarations) (registry : Registry) :
    Nat → List (Field GoType) → Dictionary Json → List String →
      Option (Except ExampleError (Dictionary Json))
  | 0, _, _, _ => none
  | _ + 1, [], members, _ => some (.ok members)
  | fuel + 1, field :: fields, members, unfinished =>
    if isExported field.name then
      match typeWithin types registry fuel field.type unfinished with
      | none => none
      | some (.error e) => some (.error e)
      | some (.ok value) =>
        fieldsWithin types registry fuel fields (Dictionary.set field.name value members) unfinished
    else fieldsWithin types registry fuel fields members unfinished

end

/-- The example of a type. -/
def ofType (types : Declarations) (registry : Registry) (t : GoType) : Except ExampleError Json :=
  (typeWithin types registry (steps types t) t []).getD (.error (.noExample t.spelling))

/-- The JSON texts of what a method takes and gives. -/
def ofMethod (types : Declarations) (registry : Registry) (params results : List GoType) :
    Except ExampleError (String × String) := do
  let inputs ← (params.drop 1).mapM (ofType types registry)
  let response ←
    match results with
    | [] => pure Json.null
    | result :: _ => ofType types registry result
  pure ((Json.arr inputs).compact, response.compact)

/-- **`Ending types registry fuel`** — where the steps suffice, they lead to an answer. -/
structure Ending (types : Declarations) (registry : Registry) (fuel : Nat) : Prop where
  ofType : ∀ t unfinished, TypeEnds types fuel t unfinished →
    ∃ result, typeWithin types registry fuel t unfinished = some result
  ofStruct : ∀ key fields unfinished, StructEnds types fuel key fields unfinished →
    ∃ result, structWithin types registry fuel key fields unfinished = some result
  ofFields : ∀ fields members unfinished, FieldsEnd types fuel fields unfinished →
    ∃ result, fieldsWithin types registry fuel fields members unfinished = some result

section Answers

variable {types : Declarations} {registry : Registry} {fuel : Nat}

theorem Ending.ofType_succ (h : Ending types registry fuel) (t : GoType) (unfinished : List String)
    (hends : TypeEnds types (fuel + 1) t unfinished) :
    ∃ result, typeWithin types registry (fuel + 1) t unfinished = some result := by
  rw [TypeEnds] at hends
  rw [typeWithin]
  cases Dictionary.get? t.spelling registry with
  | some value => exact ⟨.ok value, rfl⟩
  | none =>
      cases hlayer : layer types t with
      | leaf result => exact ⟨result, rfl⟩
      | wrap inner dress =>
          rw [hlayer] at hends
          obtain ⟨result, hinner⟩ := h.ofType inner unfinished hends
          exact ⟨result.map dress, congrArg (Option.map (Except.map dress)) hinner⟩
      | struct fields =>
          rw [hlayer] at hends
          exact h.ofStruct t.spelling fields unfinished hends

theorem Ending.ofStruct_succ (h : Ending types registry fuel) (key : String)
    (fields : List (Field GoType)) (unfinished : List String)
    (hends : StructEnds types (fuel + 1) key fields unfinished) :
    ∃ result, structWithin types registry (fuel + 1) key fields unfinished = some result := by
  rw [StructEnds] at hends
  rw [structWithin]
  by_cases hin : unfinished.contains key = true
  · rw [if_pos hin]
    exact ⟨.error (.recursive key), rfl⟩
  · rw [if_neg hin]
    have hnot : key ∉ unfinished := fun hmem => hin (List.contains_iff_mem.mpr hmem)
    obtain ⟨result, hfields⟩ := h.ofFields fields [] (key :: unfinished) (hends hnot)
    exact ⟨result.map Json.obj, congrArg (Option.map (Except.map Json.obj)) hfields⟩

theorem Ending.ofFields_succ (h : Ending types registry fuel) (fields : List (Field GoType))
    (members : Dictionary Json) (unfinished : List String)
    (hends : FieldsEnd types (fuel + 1) fields unfinished) :
    ∃ result, fieldsWithin types registry (fuel + 1) fields members unfinished = some result := by
  cases fields with
  | nil => exact ⟨.ok members, rfl⟩
  | cons field fields =>
      rw [FieldsEnd] at hends
      obtain ⟨htype, hrest⟩ := hends
      rw [fieldsWithin]
      by_cases hexported : isExported field.name = true
      · rw [if_pos hexported]
        obtain ⟨result, hfirst⟩ := h.ofType field.type unfinished (htype hexported)
        rw [hfirst]
        cases result with
        | error e => exact ⟨.error e, rfl⟩
        | ok value => exact h.ofFields fields _ unfinished hrest
      · rw [if_neg hexported]
        exact h.ofFields fields members unfinished hrest

theorem ending (types : Declarations) (registry : Registry) (fuel : Nat) :
    Ending types registry fuel := by
  induction fuel with
  | zero => exact ⟨nofun, nofun, nofun⟩
  | succ fuel ih => exact ⟨ih.ofType_succ, ih.ofStruct_succ, ih.ofFields_succ⟩

/-- Without circles of names the steps never run out. -/
theorem typeWithin_steps (hcircle : NoCircle types) (registry : Registry) (t : GoType) :
    typeWithin types registry (steps types t) t [] = some (ofType types registry t) := by
  obtain ⟨result, hresult⟩ :=
    (ending types registry (steps types t)).ofType t [] (typeEnds_steps hcircle t [])
  rw [ofType, hresult, Option.getD_some]

end Answers

end Uncached

/-! ## §B Examples by derivation -/

section Derivations

variable (types : Declarations) (registry : Registry)

/-- The types whose values the value of a type is made from. -/
inductive Part : GoType → GoType → Prop
  | wrap {t inner : GoType} {dress : Json → Json} :
      Dictionary.get? t.spelling registry = none → layer types t = .wrap inner dress → Part t inner
  | field {t : GoType} {fields : List (Field GoType)} {f : Field GoType} :
      Dictionary.get? t.spelling registry = none → layer types t = .struct fields →
        f ∈ fields → isExported f.name = true → Part t f.type

/-- The value is an example of the type. -/
inductive Exemplifies : GoType → Json → Prop
  | registered {t : GoType} {v : Json} :
      Dictionary.get? t.spelling registry = some v → Exemplifies t v
  | leaf {t : GoType} {v : Json} :
      Dictionary.get? t.spelling registry = none → layer types t = .leaf (.ok v) → Exemplifies t v
  | wrap {t inner : GoType} {dress : Json → Json} {v : Json} :
      Dictionary.get? t.spelling registry = none → layer types t = .wrap inner dress →
        Exemplifies inner v → Exemplifies t (dress v)
  | struct {t : GoType} {fields : List (Field GoType)} {assigned : List (Field GoType × Json)} :
      Dictionary.get? t.spelling registry = none → layer types t = .struct fields →
        assigned.map Prod.fst = fields.filter (fun f => isExported f.name) →
          (∀ a ∈ assigned, Exemplifies a.1.type a.2) →
            Exemplifies t (.obj (Dictionary.ofList (assigned.map fun a => (a.1.name, a.2))))

end Derivations

section Parts

variable {types : Declarations} {registry : Registry}

theorem mem_assigned {fields : List (Field GoType)} {assigned : List (Field GoType × Json)}
    (h : assigned.map Prod.fst = fields.filter (fun f => isExported f.name)) {f : Field GoType}
    (hf : f ∈ fields) (hexported : isExported f.name = true) : ∃ a ∈ assigned, a.1 = f := by
  have hmem : f ∈ assigned.map Prod.fst := by
    rw [h]
    exact List.mem_filter.mpr ⟨hf, hexported⟩
  exact List.mem_map.mp hmem

/-- What holds of a type with an example whenever it holds of its parts holds of all of them. -/
theorem Exemplifies.rec_parts {P : GoType → Prop}
    (hstep : ∀ t v, Exemplifies types registry t v → (∀ u, Part types registry t u → P u) → P t)
    {t : GoType} {v : Json} (h : Exemplifies types registry t v) : P t := by
  induction h with
  | @registered t v hget =>
      refine hstep t v (.registered hget) fun u hpart => ?_
      cases hpart with
      | wrap hnone => cases hget.symm.trans hnone
      | field hnone => cases hget.symm.trans hnone
  | @leaf t v hget hlayer =>
      refine hstep t v (.leaf hget hlayer) fun u hpart => ?_
      cases hpart with
      | wrap _ hother => cases hlayer.symm.trans hother
      | field _ hother => cases hlayer.symm.trans hother
  | @wrap t inner dress v hget hlayer hinner ih =>
      refine hstep t (dress v) (.wrap hget hlayer hinner) fun u hpart => ?_
      cases hpart with
      | wrap _ hother =>
          cases hlayer.symm.trans hother
          exact ih
      | field _ hother => cases hlayer.symm.trans hother
  | @struct t fields assigned hget hlayer hassigned hvalues ih =>
      refine hstep t _ (.struct hget hlayer hassigned hvalues) fun u hpart => ?_
      cases hpart with
      | wrap _ hother => cases hlayer.symm.trans hother
      | field _ hother hf hexported =>
          cases hlayer.symm.trans hother
          obtain ⟨a, ha, rfl⟩ := mem_assigned hassigned hf hexported
          exact ih a ha

/-- A type with an example is not a part of itself, at any depth. -/
theorem Exemplifies.not_circular {t : GoType} {v : Json} (h : Exemplifies types registry t v) :
    ¬TransGen (Part types registry) t t := by
  refine h.rec_parts (P := fun t => ¬TransGen (Part types registry) t t) ?_
  intro t v _ ih hcircle
  obtain ⟨u, hpart, hback⟩ := TransGen.head'_iff.mp hcircle
  exact ih u hpart (TransGen.tail' hback hpart)

/-- The parts of a type with an example have examples. -/
theorem Exemplifies.part {t u : GoType} {v : Json} (h : Exemplifies types registry t v)
    (hreach : ReflTransGen (Part types registry) t u) : ∃ w, Exemplifies types registry u w := by
  revert u
  refine h.rec_parts (P := fun t => ∀ {u}, ReflTransGen (Part types registry) t u →
    ∃ w, Exemplifies types registry u w) ?_
  intro t v hv ih u hreach
  rcases hreach.cases_head with rfl | ⟨inner, hpart, hrest⟩
  · exact ⟨v, hv⟩
  · exact ih inner hpart hrest

end Parts

/-! ## §C What is built is what can be derived -/

namespace Uncached

variable {types : Declarations} {registry : Registry}

/-- Values for the exported ones of a list of fields, each an example of its type. -/
def Assigns (types : Declarations) (registry : Registry) (fields : List (Field GoType))
    (assigned : List (Field GoType × Json)) : Prop :=
  assigned.map Prod.fst = fields.filter (fun f => isExported f.name) ∧
    ∀ a ∈ assigned, Exemplifies types registry a.1.type a.2

/-- **`Built types registry fuel`** — every value that is built can be derived. -/
structure Built (types : Declarations) (registry : Registry) (fuel : Nat) : Prop where
  ofType : ∀ t unfinished v, typeWithin types registry fuel t unfinished = some (.ok v) →
    Exemplifies types registry t v
  ofStruct : ∀ key fields unfinished v,
    structWithin types registry fuel key fields unfinished = some (.ok v) →
      ∃ assigned, Assigns types registry fields assigned ∧
        v = .obj (Dictionary.ofList (assigned.map fun a => (a.1.name, a.2)))
  ofFields : ∀ fields members unfinished out,
    fieldsWithin types registry fuel fields members unfinished = some (.ok out) →
      ∃ assigned, Assigns types registry fields assigned ∧
        out = Dictionary.setAll members (assigned.map fun a => (a.1.name, a.2))

theorem map_except_eq_ok {α β : Type} {f : α → β} {answer : Option (Except ExampleError α)} {b : β}
    (h : answer.map (Except.map f) = some (.ok b)) : ∃ a, answer = some (.ok a) ∧ b = f a := by
  rcases answer with _ | _ | a
  · cases h
  · cases h
  · cases h
    exact ⟨a, rfl, rfl⟩

variable {fuel : Nat}

theorem Built.ofType_succ (h : Built types registry fuel) (t : GoType) (unfinished : List String)
    (v : Json) (hv : typeWithin types registry (fuel + 1) t unfinished = some (.ok v)) :
    Exemplifies types registry t v := by
  rw [typeWithin] at hv
  cases hget : Dictionary.get? t.spelling registry with
  | some value =>
      rw [hget] at hv
      cases hv
      exact .registered hget
  | none =>
      rw [hget] at hv
      cases hlayer : layer types t with
      | leaf result =>
          rw [hlayer] at hv
          cases hv
          exact .leaf hget hlayer
      | wrap inner dress =>
          rw [hlayer] at hv
          obtain ⟨w, hw, rfl⟩ := map_except_eq_ok hv
          exact .wrap hget hlayer (h.ofType inner unfinished w hw)
      | struct fields =>
          rw [hlayer] at hv
          obtain ⟨assigned, ⟨hassigned, hvalues⟩, rfl⟩ := h.ofStruct _ _ _ _ hv
          exact .struct hget hlayer hassigned hvalues

theorem Built.ofStruct_succ (h : Built types registry fuel) (key : String)
    (fields : List (Field GoType)) (unfinished : List String) (v : Json)
    (hv : structWithin types registry (fuel + 1) key fields unfinished = some (.ok v)) :
    ∃ assigned, Assigns types registry fields assigned ∧
      v = .obj (Dictionary.ofList (assigned.map fun a => (a.1.name, a.2))) := by
  rw [structWithin] at hv
  split at hv
  · cases hv
  · obtain ⟨out, hout, rfl⟩ := map_except_eq_ok hv
    obtain ⟨assigned, hassigned, rfl⟩ := h.ofFields _ _ _ _ hout
    exact ⟨assigned, hassigned, rfl⟩

theorem Built.ofFields_succ (h : Built types registry fuel) (fields : List (Field GoType))
    (members : Dictionary Json) (unfinished : List String) (out : Dictionary Json)
    (hout : fieldsWithin types registry (fuel + 1) fields members unfinished = some (.ok out)) :
    ∃ assigned, Assigns types registry fields assigned ∧
      out = Dictionary.setAll members (assigned.map fun a => (a.1.name, a.2)) := by
  cases fields with
  | nil =>
      cases hout
      exact ⟨[], ⟨rfl, fun _ ha => absurd ha List.not_mem_nil⟩, rfl⟩
  | cons field fields =>
      rw [fieldsWithin] at hout
      by_cases hexported : isExported field.name = true
      · rw [if_pos hexported] at hout
        cases hfirst : typeWithin types registry fuel field.type unfinished with
        | none => rw [hfirst] at hout; cases hout
        | some result =>
            rw [hfirst] at hout
            cases result with
            | error e => cases hout
            | ok value =>
                obtain ⟨assigned, ⟨hassigned, hvalues⟩, rfl⟩ := h.ofFields _ _ _ _ hout
                refine ⟨(field, value) :: assigned, ⟨?_, ?_⟩, rfl⟩
                · rw [List.map_cons, hassigned, List.filter_cons, if_pos hexported]
                · intro a ha
                  rcases List.mem_cons.mp ha with rfl | ha
                  · exact h.ofType _ _ _ hfirst
                  · exact hvalues a ha
      · rw [if_neg hexported] at hout
        obtain ⟨assigned, ⟨hassigned, hvalues⟩, rfl⟩ := h.ofFields _ _ _ _ hout
        refine ⟨assigned, ⟨?_, hvalues⟩, rfl⟩
        rw [hassigned, List.filter_cons, if_neg hexported]

theorem built (types : Declarations) (registry : Registry) (fuel : Nat) :
    Built types registry fuel := by
  induction fuel with
  | zero => exact ⟨nofun, nofun, nofun⟩
  | succ fuel ih => exact ⟨ih.ofType_succ, ih.ofStruct_succ, ih.ofFields_succ⟩

/-- Fields are built as assigned where every single one is. -/
theorem fieldsWithin_assigned {fields : List (Field GoType)}
    {assigned : List (Field GoType × Json)} {members : Dictionary Json} {unfinished : List String}
    {result : Except ExampleError (Dictionary Json)}
    (hassigned : assigned.map Prod.fst = fields.filter (fun f => isExported f.name))
    (hvalues : ∀ a ∈ assigned, ∀ m r,
      typeWithin types registry m a.1.type unfinished = some r → r = .ok a.2)
    (h : fieldsWithin types registry fuel fields members unfinished = some result) :
    result = .ok (Dictionary.setAll members (assigned.map fun a => (a.1.name, a.2))) := by
  induction fields generalizing fuel members assigned with
  | nil =>
      cases List.map_eq_nil_iff.mp hassigned
      cases fuel with
      | zero => cases h
      | succ fuel =>
          cases h
          rfl
  | cons field fields ih =>
      cases fuel with
      | zero => cases h
      | succ fuel =>
          rw [fieldsWithin] at h
          rw [List.filter_cons] at hassigned
          by_cases hexported : isExported field.name = true
          · rw [if_pos hexported] at h hassigned
            obtain ⟨a, others, rfl, rfl, hothers⟩ := List.map_eq_cons_iff.mp hassigned
            cases hfirst : typeWithin types registry fuel a.1.type unfinished with
            | none => rw [hfirst] at h; cases h
            | some r =>
                cases hvalues a List.mem_cons_self fuel r hfirst
                rw [hfirst] at h
                have hrest : result = .ok (Dictionary.setAll (Dictionary.set a.1.name a.2 members)
                    (others.map fun a => (a.1.name, a.2))) :=
                  ih hothers (fun b hb => hvalues b (List.mem_cons_of_mem _ hb)) h
                exact hrest
          · rw [if_neg hexported] at h hassigned
            exact ih hassigned hvalues h

theorem closed_of_reaches {among : GoType → Prop}
    (hclosed : ∀ t u, among t → Part types registry t u → among u) {t u : GoType} (ht : among t)
    (h : ReflTransGen (Part types registry) t u) : among u := by
  induction h with
  | refl => exact ht
  | tail _ hpart ih => exact hclosed _ _ ih hpart

/-- Derived values are built, where no struct that is begun stands among the parts of the type and
no two of them are spelled alike. -/
theorem typeWithin_exemplifies {among : GoType → Prop}
    (hclosed : ∀ t u, among t → Part types registry t u → among u)
    (hspelling : ∀ t u, among t → among u → t.spelling = u.spelling → t = u)
    {t : GoType} {v : Json} (hv : Exemplifies types registry t v) (hamong : among t)
    {unfinished : List String}
    (hclear : ∀ u, ReflTransGen (Part types registry) t u → u.spelling ∉ unfinished)
    {result : Except ExampleError Json}
    (h : typeWithin types registry fuel t unfinished = some result) : result = .ok v := by
  induction hv generalizing fuel unfinished result with
  | registered hget =>
      cases fuel with
      | zero => cases h
      | succ fuel =>
          rw [typeWithin, hget] at h
          cases h
          rfl
  | leaf hget hlayer =>
      cases fuel with
      | zero => cases h
      | succ fuel =>
          rw [typeWithin, hget, hlayer] at h
          cases h
          rfl
  | @wrap t inner dress v hget hlayer _ ih =>
      have hpart : Part types registry t inner := .wrap hget hlayer
      cases fuel with
      | zero => cases h
      | succ fuel =>
          rw [typeWithin, hget, hlayer] at h
          obtain ⟨r, hr, rfl⟩ := Option.map_eq_some_iff.mp h
          rw [ih (hclosed t inner hamong hpart) (fun u hu => hclear u (hu.head hpart)) hr]
          rfl
  | @struct t fields assigned hget hlayer hassigned hvalues ih =>
      have hself : ¬TransGen (Part types registry) t t :=
        (Exemplifies.struct hget hlayer hassigned hvalues).not_circular
      have hparts : ∀ a ∈ assigned, Part types registry t a.1.type := by
        intro a ha
        have hmem := List.mem_map_of_mem (f := Prod.fst) ha
        rw [hassigned] at hmem
        obtain ⟨hf, hexported⟩ := List.mem_filter.mp hmem
        exact .field hget hlayer hf hexported
      -- the struct that is begun here is not among the parts of its fields either
      have hbuilt : ∀ a ∈ assigned, ∀ m r,
          typeWithin types registry m a.1.type (t.spelling :: unfinished) = some r →
            r = .ok a.2 := by
        intro a ha m r hr
        have hpart := hparts a ha
        refine ih a ha (hclosed t _ hamong hpart) (fun u hu hmem => ?_) hr
        rcases List.mem_cons.mp hmem with heq | hmem
        · have hu' := closed_of_reaches hclosed (hclosed t _ hamong hpart) hu
          cases hspelling u t hu' hamong heq
          exact hself (TransGen.head' hpart hu)
        · exact hclear u (hu.head hpart) hmem
      rcases fuel with _ | _ | fuel
      · cases h
      · rw [typeWithin, hget, hlayer] at h
        cases h
      · have hnot : ¬unfinished.contains t.spelling = true :=
          fun hin => hclear t .refl (List.contains_iff_mem.mp hin)
        rw [typeWithin, hget, hlayer] at h
        dsimp only at h
        rw [structWithin, if_neg hnot] at h
        obtain ⟨r, hr, rfl⟩ := Option.map_eq_some_iff.mp h
        rw [fieldsWithin_assigned hassigned hbuilt hr]
        rfl

end Uncached

end RollCall.Example
