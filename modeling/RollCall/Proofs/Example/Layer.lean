import Mathlib.Logic.Relation
import RollCall.Example.Generate
import RollCall.Proofs.Dictionary

/-!
# RollCall.Proofs.Example.Layer — one layer of a type at a time

Building an example takes one of three turns at every type that is not registered. The type is a
struct, written out or by name, and its fields come next; or it wraps a single other type, and its
value is made from the value of that one; or there is nothing below it and the answer is known at
once. `layer` tells which, and `typeWithin_succ` is the recursion in these terms. `keep` is the one
place where it registers anything.
-/

namespace RollCall.Example

/-! ## §A Layers -/

/-- What comes next in building an example. -/
inductive Layer where
  /-- The fields of a struct. -/
  | struct (fields : List (Field GoType))
  /-- A single type, and what to make of its value. -/
  | wrap (inner : GoType) (dress : Json → Json)
  /-- Nothing: the answer is known. -/
  | leaf (result : Except ExampleError Json)

/-- The outermost layer of a type. -/
def layer (types : Declarations) (t : GoType) : Layer :=
  match t with
  | .slice elem => .wrap elem fun v => .arr [v]
  | .chan elem => .wrap elem id
  | .array (some n) elem => .wrap elem fun v => .arr (List.replicate n v)
  | .struct fields => .struct fields
  | .pointer elem =>
    if leadsToStruct types elem then .wrap elem id else .leaf (.error (.noExample t.spelling))
  | .interface => .leaf (.ok Json.empty)
  | .named none name =>
    match Dictionary.get? name types with
    | none =>
      .leaf (.error (if isExported name then .unresolved t.spelling else .noExample t.spelling))
    | some (.struct fields) => .struct fields
    | some declared => .wrap declared id
  | .named (some _) _ => .leaf (.error (.unresolved t.spelling))
  | .array none _ => .leaf (.error (.noExample t.spelling))
  | .map _ _ => .leaf (.error (.noExample t.spelling))
  | .func _ => .leaf (.error (.noExample t.spelling))
  | .other _ => .leaf (.error (.noExample t.spelling))

/-- The parts of a type expression that stand directly below it. -/
inductive Holds : GoType → GoType → Prop
  | pointer (elem : GoType) : Holds (.pointer elem) elem
  | slice (elem : GoType) : Holds (.slice elem) elem
  | array (length : Option Nat) (elem : GoType) : Holds (.array length elem) elem
  | chan (elem : GoType) : Holds (.chan elem) elem
  | mapKey (key value : GoType) : Holds (.map key value) key
  | mapValue (key value : GoType) : Holds (.map key value) value
  | field {fields : List (Field GoType)} {f : Field GoType} :
      f ∈ fields → Holds (.struct fields) f.type

/-- A struct layer is a struct that is written out, or a name that is declared as one. -/
theorem layer_struct {types : Declarations} {t : GoType} {fields : List (Field GoType)}
    (h : layer types t = .struct fields) :
    t = .struct fields ∨
      ∃ name, t = .named none name ∧ Dictionary.get? name types = some (.struct fields) := by
  unfold layer at h
  split at h
  case h_4 => cases h; exact Or.inl rfl
  case h_5 => split at h <;> cases h
  case h_7 name =>
    split at h
    case h_2 hget => cases h; exact Or.inr ⟨name, rfl, hget⟩
    all_goals cases h
  all_goals cases h

/-- A wrapping layer is written out in the type, or the type is a name that is declared as something
other than a struct. -/
theorem layer_wrap {types : Declarations} {t inner : GoType} {dress : Json → Json}
    (h : layer types t = .wrap inner dress) :
    Holds t inner ∨
      ∃ name, t = .named none name ∧ Dictionary.get? name types = some inner ∧
        inner.isStruct = false := by
  unfold layer at h
  split at h
  case h_1 => cases h; exact Or.inl (.slice _)
  case h_2 => cases h; exact Or.inl (.chan _)
  case h_3 => cases h; exact Or.inl (.array _ _)
  case h_5 =>
    split at h
    · cases h; exact Or.inl (.pointer _)
    · cases h
  case h_7 name =>
    split at h
    case h_3 hnot hget =>
      cases h
      refine Or.inr ⟨name, rfl, hget, ?_⟩
      cases inner with
      | struct fields => exact absurd rfl (hnot fields)
      | _ => rfl
    all_goals cases h
  all_goals cases h

/-! ## §B The recursion by layers -/

/-- Registers the value of a declared struct. -/
def keep (t : GoType) (answer : Answer Json) : Answer Json :=
  match t, answer with
  | .named none _, some (.ok value, bench) =>
    some (.ok value, { bench with registry := Dictionary.set t.spelling value bench.registry })
  | _, answer => answer

theorem Answer.map_id (answer : Answer Json) : answer.map id = answer := by
  rcases answer with _ | ⟨_ | _, _⟩ <;> rfl

theorem Answer.map_eq_some {α β : Type} {f : α → β} {answer : Answer α}
    {mapped : Except ExampleError β × Bench} (h : answer.map f = some mapped) :
    ∃ before, answer = some before ∧ mapped = (before.1.map f, before.2) := by
  rcases answer with _ | ⟨_ | _, bench⟩
  · cases h
  · cases h
    exact ⟨_, rfl, rfl⟩
  · cases h
    exact ⟨_, rfl, rfl⟩

theorem keep_none (t : GoType) : keep t none = none := by
  unfold keep
  split
  · rename_i heq
    cases heq
  · rfl

theorem keep_some (t : GoType) (result : Except ExampleError Json) (bench : Bench) :
    keep t (some (result, bench)) = some (result, bench) ∨
      ∃ value, result = .ok value ∧ keep t (some (result, bench)) =
        some (result, { bench with registry := Dictionary.set t.spelling value bench.registry }) := by
  unfold keep
  split
  · rename_i heq
    cases heq
    exact Or.inr ⟨_, rfl, rfl⟩
  · exact Or.inl rfl

theorem exists_of_keep {t : GoType} {answer : Answer Json} {out : Except ExampleError Json × Bench}
    (h : keep t answer = some out) : ∃ before, answer = some before := by
  cases answer with
  | none =>
      rw [keep_none] at h
      cases h
  | some before => exact ⟨before, rfl⟩

theorem typeWithin_succ (types : Declarations) (fuel : Nat) (t : GoType) (bench : Bench) :
    typeWithin types (fuel + 1) t bench =
      match Dictionary.get? t.spelling bench.registry with
      | some value => some (.ok value, bench)
      | none =>
        match layer types t with
        | .leaf result => some (result, bench)
        | .wrap inner dress => (typeWithin types fuel inner bench).map dress
        | .struct fields => keep t (structWithin types fuel t.spelling fields bench) := by
  rw [typeWithin.eq_def]
  dsimp only
  cases Dictionary.get? t.spelling bench.registry with
  | some value => rfl
  | none =>
      cases t with
      | named package name =>
          cases package with
          | some package => rfl
          | none =>
              simp only [layer]
              cases Dictionary.get? name types with
              | none => rfl
              | some declared =>
                  cases declared with
                  | struct fields =>
                      dsimp only
                      rcases structWithin types fuel (GoType.named none name).spelling fields bench
                        with _ | ⟨_ | _, _⟩ <;> rfl
                  | _ => exact (Answer.map_id _).symm
      | pointer elem =>
          simp only [layer]
          split
          · exact (Answer.map_id _).symm
          · rfl
      | array length elem => cases length <;> rfl
      | chan elem => exact (Answer.map_id _).symm
      | _ => rfl

/-! ## §C Registered types -/

theorem steps_pos (types : Declarations) (t : GoType) : 0 < steps types t := by
  have hfold : ∀ entries : Declarations,
      0 < entries.foldr (fun entry total => weight entry.2 + 2 + total) (weight t + 2) := by
    intro entries
    cases entries with
    | nil => exact Nat.succ_pos _
    | cons entry entries =>
        rw [List.foldr_cons]
        omega
  exact Nat.mul_pos (Nat.mul_pos (by decide) (hfold types)) (hfold types)

theorem ofType_registered (types : Declarations) {t : GoType} {bench : Bench} {value : Json}
    (h : Dictionary.get? t.spelling bench.registry = some value) :
    ofType types t bench = (.ok value, bench) := by
  obtain ⟨fuel, hfuel⟩ := Nat.exists_eq_succ_of_ne_zero (steps_pos types t).ne'
  rw [ofType, hfuel, typeWithin_succ, h]
  rfl

theorem ofTypes_registered (types : Declarations) {ts : List GoType} {bench : Bench}
    (h : ∀ t ∈ ts, Dictionary.get? t.spelling bench.registry ≠ none) :
    ∃ values, ofTypes types ts bench = (.ok values, bench) := by
  induction ts with
  | nil => exact ⟨[], rfl⟩
  | cons t ts ih =>
      obtain ⟨value, hvalue⟩ := Option.ne_none_iff_exists'.mp (h t List.mem_cons_self)
      obtain ⟨values, hvalues⟩ := ih fun x hx => h x (List.mem_cons_of_mem _ hx)
      refine ⟨value :: values, ?_⟩
      rw [ofTypes, ofType_registered types hvalue]
      simp only [hvalues]

/-- A method whose types are all registered has examples, and nothing is registered for it. -/
theorem ofMethod_registered (types : Declarations) {params results : List GoType} {bench : Bench}
    (hparams : ∀ t ∈ params, Dictionary.get? t.spelling bench.registry ≠ none)
    (hresults : ∀ t ∈ results, Dictionary.get? t.spelling bench.registry ≠ none) :
    ∃ texts, ofMethod types params results bench = (.ok texts, bench) := by
  obtain ⟨inputs, hinputs⟩ :=
    ofTypes_registered types fun t ht => hparams t (List.mem_of_mem_drop ht)
  rw [ofMethod, hinputs]
  cases results with
  | nil => exact ⟨_, rfl⟩
  | cons result others =>
      obtain ⟨value, hvalue⟩ := Option.ne_none_iff_exists'.mp (hresults result List.mem_cons_self)
      simp only [ofType_registered types hvalue]
      exact ⟨_, rfl⟩

end RollCall.Example
