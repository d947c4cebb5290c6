import RollCall.Proofs.Example.Derivation
import RollCall.Proofs.Example.Frame

/-!
# RollCall.Proofs.Example.Failure — what an error points at

An error of building an example names a spelling. It comes from whichever part fails first, deep
inside the type and after other parts have been built and registered. Still it points at a part of
the type that was asked for, and at one for which nothing can be done: `Follows` says which parts are
looked at from a type that is not registered, and the error is that of a part that is reached this
way and is not registered itself.

Registering on the way can only hide parts. What is not registered when a part is met was not
registered in the beginning, so every part that is met is reached through types that were not
registered in the beginning, and the argument needs nothing of the spellings.
-/

namespace RollCall.Example

open Relation (ReflTransGen TransGen)

/-! ## §A The parts that are looked at -/

/-- The field is exported, and a field of the type: of a struct that is written out, or of the one
that the type is the declared name of. -/
def HasField (types : Declarations) (t : GoType) (f : Field GoType) : Prop :=
  isExported f.name = true ∧ ∃ fields, f ∈ fields ∧
    (t = .struct fields ∨
      ∃ name, t = .named none name ∧ Dictionary.get? name types = some (.struct fields))

/-- **`Follows types registry t u`** — the type `t` is not registered, and `u` is looked at for it. -/
inductive Follows (types : Declarations) (registry : Registry) : GoType → GoType → Prop
  | slice {elem : GoType} :
      Dictionary.get? (GoType.slice elem).spelling registry = none →
        Follows types registry (.slice elem) elem
  | chan {elem : GoType} :
      Dictionary.get? (GoType.chan elem).spelling registry = none →
        Follows types registry (.chan elem) elem
  | array {n : Nat} {elem : GoType} :
      Dictionary.get? (GoType.array (some n) elem).spelling registry = none →
        Follows types registry (.array (some n) elem) elem
  | pointer {elem : GoType} :
      Dictionary.get? (GoType.pointer elem).spelling registry = none → IsStructType types elem →
        Follows types registry (.pointer elem) elem
  | field {t : GoType} {f : Field GoType} :
      Dictionary.get? t.spelling registry = none → HasField types t f →
        Follows types registry t f.type
  | declared {name : String} {t : GoType} :
      Dictionary.get? (GoType.named none name).spelling registry = none →
        Dictionary.get? name types = some t → t.isStruct = false →
          Follows types registry (.named none name) t

/-- The names that nothing is known about: those of other packages, and exported ones that are not
declared. -/
def Unknown (types : Declarations) : GoType → Prop
  | .named (some _) _ => True
  | .named none name => Dictionary.get? name types = none ∧ isExported name = true
  | _ => False

/-- The types of which no example can be made: maps, functions, uncovered types, arrays of unknown
length, pointers to anything but a struct, and names that are neither declared nor exported. -/
def Underivable (types : Declarations) : GoType → Prop
  | .map _ _ => True
  | .func _ => True
  | .other _ => True
  | .array none _ => True
  | .pointer elem => ¬IsStructType types elem
  | .named none name => Dictionary.get? name types = none ∧ ¬isExported name = true
  | _ => False

section Parts

variable {types : Declarations} {registry : Registry} {t u : GoType}

/-- The parts of one layer are the parts that are looked at. -/
theorem Part.follows (h : Part types registry t u) : Follows types registry t u := by
  cases h with
  | wrap hget hlayer =>
      rcases layer_wrap hlayer with hholds | ⟨name, rfl, hdeclared, hstruct⟩
      · cases hholds with
        | slice elem => exact .slice hget
        | chan elem => exact .chan hget
        | array length elem =>
            cases length with
            | none => cases hlayer
            | some n => exact .array hget
        | pointer elem =>
            rw [layer] at hlayer
            split at hlayer
            · rename_i hleads
              exact .pointer hget ((leadsToStruct_iff types _).mp hleads)
            · cases hlayer
        | mapKey key value => cases hlayer
        | mapValue key value => cases hlayer
        | field hf => cases hlayer
      · exact .declared hget hdeclared hstruct
  | field hget hlayer hf hexported =>
      exact .field hget ⟨hexported, _, hf, layer_struct hlayer⟩

theorem reaches_of_parts (h : ReflTransGen (Part types registry) t u) :
    ReflTransGen (Follows types registry) t u :=
  ReflTransGen.mono (fun _ _ => Part.follows) _ _ h

/-- An error that is known at once is the one that its type stands for. -/
theorem layer_error {e : ExampleError} (h : layer types t = .leaf (.error e)) :
    (e = .unresolved t.spelling ∧ Unknown types t) ∨
      (e = .noExample t.spelling ∧ Underivable types t) := by
  cases t with
  | named package name =>
      cases package with
      | some package =>
          cases h
          exact Or.inl ⟨rfl, trivial⟩
      | none =>
          rw [layer] at h
          cases hget : Dictionary.get? name types with
          | none =>
              rw [hget] at h
              cases h
              by_cases hexported : isExported name = true
              · rw [if_pos hexported]
                exact Or.inl ⟨rfl, hget, hexported⟩
              · rw [if_neg hexported]
                exact Or.inr ⟨rfl, hget, hexported⟩
          | some declared =>
              rw [hget] at h
              cases declared <;> cases h
  | pointer elem =>
      rw [layer] at h
      split at h
      · cases h
      · rename_i hleads
        cases h
        exact Or.inr ⟨rfl, fun hstruct => hleads ((leadsToStruct_iff types elem).mpr hstruct)⟩
  | array length elem =>
      cases length with
      | none =>
          cases h
          exact Or.inr ⟨rfl, trivial⟩
      | some n => cases h
  | map key value =>
      cases h
      exact Or.inr ⟨rfl, trivial⟩
  | func text =>
      cases h
      exact Or.inr ⟨rfl, trivial⟩
  | other text =>
      cases h
      exact Or.inr ⟨rfl, trivial⟩
  | _ => cases h

end Parts

/-! ## §B What a failed run points at -/

section Runs

variable (types : Declarations) (initial : Registry) (root : GoType)

/-- **`Begun types initial root unfinished t`** — every struct that is begun is reached from the root,
and the type is below it. -/
def Begun (unfinished : List String) (t : GoType) : Prop :=
  ∀ key ∈ unfinished, ∃ outer fields, ReflTransGen (Part types initial) root outer ∧
    layer types outer = .struct fields ∧ outer.spelling = key ∧
      TransGen (Part types initial) outer t

/-- **`PointsAt types initial root e`** — the error is that of a part which is reached from the root
and was not registered in the beginning, or of a struct that is reached again below itself. -/
def PointsAt : ExampleError → Prop
  | .unresolved key => ∃ t, ReflTransGen (Part types initial) root t ∧
      Dictionary.get? t.spelling initial = none ∧ t.spelling = key ∧ Unknown types t
  | .noExample key => ∃ t, ReflTransGen (Part types initial) root t ∧
      Dictionary.get? t.spelling initial = none ∧ t.spelling = key ∧ Underivable types t
  | .recursive key => ∃ outer inner fields fields',
      ReflTransGen (Part types initial) root outer ∧ layer types outer = .struct fields ∧
        outer.spelling = key ∧ TransGen (Part types initial) outer inner ∧
          layer types inner = .struct fields' ∧ inner.spelling = key

/-- The types that a task begins with. -/
def Task.Starts : Task → GoType → Prop
  | .type t, u => u = t
  | .fields all _, u => ∃ f ∈ all, isExported f.name = true ∧ f.type = u

variable {types initial root} {task : Task} {bench after : Bench}
  {result : Except ExampleError Json}

theorem Begun.part {unfinished : List String} {t u : GoType}
    (h : Begun types initial root unfinished t) (hpart : Part types initial t u) :
    Begun types initial root unfinished u := by
  intro key hkey
  obtain ⟨outer, fields, hreach, hlayer, hspelling, hdown⟩ := h key hkey
  exact ⟨outer, fields, hreach, hlayer, hspelling, hdown.tail hpart⟩

/-- Beginning a struct puts its parts below it. -/
theorem Begun.cons {unfinished : List String} {t u : GoType} {fields : List (Field GoType)}
    (h : Begun types initial root unfinished t) (hreach : ReflTransGen (Part types initial) root t)
    (hlayer : layer types t = .struct fields) (hpart : Part types initial t u) :
    Begun types initial root (t.spelling :: unfinished) u := by
  intro key hkey
  rcases List.mem_cons.mp hkey with rfl | hkey
  · exact ⟨t, fields, hreach, hlayer, rfl, .single hpart⟩
  · exact h.part hpart key hkey

/-- A run keeps what is registered, so what is free after it was free before. -/
theorem Run.free_before (h : Run types task bench result after)
    (hkeys : ∀ key, Dictionary.get? key bench.registry = none → Dictionary.get? key initial = none)
    (key : String) (hfree : Dictionary.get? key after.registry = none) :
    Dictionary.get? key initial = none := by
  apply hkeys
  cases hget : Dictionary.get? key bench.registry with
  | none => rfl
  | some v => cases hfree.symm.trans (h.keeps hget)

/-- The error of a run points at a part that the task begins with or that is below it. -/
theorem Run.pointsAt (h : Run types task bench result after)
    (hkeys : ∀ key, Dictionary.get? key bench.registry = none → Dictionary.get? key initial = none)
    (hstarts : ∀ t, task.Starts t → ReflTransGen (Part types initial) root t ∧
      Begun types initial root bench.unfinished t) {e : ExampleError} (he : result = .error e) :
    PointsAt types initial root e := by
  induction h with
  | registered _ => cases he
  | @leaf t bench result hget hlayer =>
      subst he
      obtain ⟨hreach, -⟩ := hstarts t rfl
      rcases layer_error hlayer with ⟨rfl, hunknown⟩ | ⟨rfl, hunderivable⟩
      · exact ⟨t, hreach, hkeys _ hget, rfl, hunknown⟩
      · exact ⟨t, hreach, hkeys _ hget, rfl, hunderivable⟩
  | @wrap t inner dress bench after result hget hlayer _ ih =>
      obtain ⟨hreach, hbegun⟩ := hstarts t rfl
      have hpart : Part types initial t inner := .wrap (hkeys _ hget) hlayer
      refine ih hkeys ?_ ?_
      · rintro u rfl
        exact ⟨hreach.tail hpart, hbegun.part hpart⟩
      · cases result with
        | error e' => exact he
        | ok v => cases he
  | @refused t fields bench hget hlayer hin =>
      -- the struct that was begun under this spelling has the type among its parts
      cases he
      obtain ⟨hreach, hbegun⟩ := hstarts t rfl
      obtain ⟨outer, fields', houter, hstruct, hspelling, hdown⟩ := hbegun _ hin
      exact ⟨outer, t, fields', fields, houter, hstruct, hspelling, hdown, hlayer, rfl⟩
  | @struct t fields bench after result hget hlayer _ _ ih =>
      obtain ⟨hreach, hbegun⟩ := hstarts t rfl
      refine ih hkeys ?_ he
      rintro u ⟨f, hf, hexported, rfl⟩
      have hpart : Part types initial t f.type := .field (hkeys _ hget) hlayer hf hexported
      exact ⟨hreach.tail hpart, hbegun.cons hreach hlayer hpart⟩
  | noFields => cases he
  | hiddenField _ _ ih =>
      refine ih hkeys ?_ he
      rintro u ⟨f, hf, hrest⟩
      exact hstarts u ⟨f, List.mem_cons_of_mem _ hf, hrest⟩
  | @failedField f fields members bench after e' hexported _ ih =>
      cases he
      refine ih hkeys ?_ rfl
      rintro u rfl
      exact hstarts f.type ⟨f, List.mem_cons_self, hexported, rfl⟩
  | @field f fields members v bench middle after result hexported hfirst _ _ ihrest =>
      refine ihrest (hfirst.free_before hkeys) ?_ he
      rintro u ⟨g, hg, hrest⟩
      rw [hfirst.unfinished_eq]
      exact hstarts u ⟨g, List.mem_cons_of_mem _ hg, hrest⟩

end Runs

/-! ## §C What the error of an example points at -/

/-- **`Met types registry t u`** — the type `u` is looked at for `t`, and is not registered. -/
def Met (types : Declarations) (registry : Registry) (t u : GoType) : Prop :=
  ReflTransGen (Follows types registry) t u ∧ Dictionary.get? u.spelling registry = none

theorem Part.unregistered {types : Declarations} {registry : Registry} {t u : GoType}
    (h : Part types registry t u) : Dictionary.get? t.spelling registry = none := by
  cases h with
  | wrap hget _ => exact hget
  | field hget _ _ _ => exact hget

/-- What is below a struct is below one of its exported fields. -/
theorem below_struct {types : Declarations} {registry : Registry} {t u : GoType}
    {fields : List (Field GoType)} (hlayer : layer types t = .struct fields)
    (h : TransGen (Part types registry) t u) :
    Dictionary.get? t.spelling registry = none ∧
      ∃ f, HasField types t f ∧ ReflTransGen (Follows types registry) f.type u := by
  obtain ⟨next, hpart, hrest⟩ := TransGen.head'_iff.mp h
  refine ⟨hpart.unregistered, ?_⟩
  cases hpart with
  | wrap _ hwrap => cases hlayer.symm.trans hwrap
  | field _ hstruct hf hexported =>
      exact ⟨_, ⟨hexported, _, hf, layer_struct hstruct⟩, reaches_of_parts hrest⟩

theorem isStructType_of_layer {types : Declarations} {t : GoType} {fields : List (Field GoType)}
    (h : layer types t = .struct fields) : IsStructType types t := by
  rcases layer_struct h with rfl | ⟨name, rfl, hget⟩
  · exact Or.inl ⟨fields, rfl⟩
  · exact Or.inr ⟨name, fields, rfl, hget⟩

/-- Where a type has no example, the error is that of a type which is looked at for it and is not
registered: a name that nothing is known about, a type of which no example can be made, or a struct
with a field that leads to a struct of the same spelling. -/
theorem error_of_met (types : Declarations) (registry : Registry) (t : GoType) (e : ExampleError)
    (hcircle : NoCircle types) (herror : (ofType types t (.fresh registry)).1 = .error e) :
    (∃ u, e = .unresolved u.spelling ∧ Met types registry t u ∧ Unknown types u) ∨
      (∃ u, e = .noExample u.spelling ∧ Met types registry t u ∧ Underivable types u) ∨
        ∃ outer f inner, e = .recursive outer.spelling ∧
          e.message = (ExampleError.noExample (outer.spelling ++ " (recursive)")).message ∧
            Met types registry t outer ∧ HasField types outer f ∧
              ReflTransGen (Follows types registry) f.type inner ∧ IsStructType types inner ∧
                inner.spelling = outer.spelling := by
  have hpoints : PointsAt types registry t e := by
    apply (run_ofType hcircle t (.fresh registry)).pointsAt (fun _ hfree => hfree) ?_ herror
    rintro u rfl
    exact ⟨.refl, nofun⟩
  cases e with
  | unresolved key =>
      obtain ⟨u, hreach, hget, rfl, hunknown⟩ := hpoints
      exact Or.inl ⟨u, rfl, ⟨reaches_of_parts hreach, hget⟩, hunknown⟩
  | noExample key =>
      obtain ⟨u, hreach, hget, rfl, hunderivable⟩ := hpoints
      exact Or.inr (Or.inl ⟨u, rfl, ⟨reaches_of_parts hreach, hget⟩, hunderivable⟩)
  | recursive key =>
      obtain ⟨outer, inner, _, _, hreach, hlayer, rfl, hdown, hinner, hsame⟩ := hpoints
      obtain ⟨hget, f, hfield, hbelow⟩ := below_struct hlayer hdown
      refine Or.inr (Or.inr ⟨outer, f, inner, rfl, ?_, ⟨reaches_of_parts hreach, hget⟩, hfield,
        hbelow, isStructType_of_layer hinner, hsame⟩)
      show _ ++ _ ++ _ = _ ++ (_ ++ _)
      rw [String.append_assoc]

/-- The struct that is registered on the way is not the one that the error names. -/
theorem error_of_met_ownField :
    (ofType sampleTypes (.slice (.plain "Loop")) (.fresh [("string", .null)])).1 =
        .error (.recursive "Loop") ∧
      ∃ outer f inner, Met sampleTypes [("string", .null)] (.slice (.plain "Loop")) outer ∧
        outer.spelling = "Loop" ∧ HasField sampleTypes outer f ∧
          ReflTransGen (Follows sampleTypes [("string", .null)]) f.type inner ∧
            IsStructType sampleTypes inner ∧ inner.spelling = "Loop" := by
  refine ⟨rfl, ?_⟩
  rcases error_of_met sampleTypes [("string", .null)] (.slice (.plain "Loop")) (.recursive "Loop")
    noCircle_sampleTypes rfl with
    ⟨_, h, -⟩ | ⟨_, h, -⟩ | ⟨outer, f, inner, h, -, hmet, hfield, hreach, hstruct, hsame⟩
  · cases h
  · cases h
  · have hspelling : outer.spelling = "Loop" := (ExampleError.recursive.inj h).symm
    exact ⟨outer, f, inner, hmet, hspelling, hfield, hreach, hstruct, hsame.trans hspelling⟩

end RollCall.Example
