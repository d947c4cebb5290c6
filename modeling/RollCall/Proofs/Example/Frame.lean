import RollCall.Proofs.Example.Sufficiency

/-!
# RollCall.Proofs.Example.Frame — what building leaves on the bench

Building an example works on one bench all the way down: structs are begun and finished on it, and
declared structs are registered, also on ways that then fail. This is everything that shows
afterwards. The structs that are begun are those that were begun before. The registry has grown by
single registrations, each of a name that is declared as a struct and had no value, with an object of
the exported fields of that declaration.

That no registration replaces another one hangs on the structs that are begun: while the fields of a
struct are built its spelling is among them, and a struct that is begun is refused and so never
registered from within.

`Frame` is this as a relation between the bench before and after. It holds of every single example,
and because it composes it holds of all examples of a method, up to the first that fails: the bench
that one method leaves is fit for the next one.
-/

namespace RollCall.Example

open Relation (ReflTransGen)

/-! ## §A Registering one declared struct -/

/-- **`Portrays fields v`** — the value is an object with one member under the name of each exported
field, and with no others. -/
def Portrays (fields : List (Field GoType)) (v : Json) : Prop :=
  ∃ members, v = .obj members ∧ Dictionary.Ascending members ∧
    ∀ name, name ∈ Dictionary.names members ↔
      ∃ f ∈ fields, isExported f.name = true ∧ f.name = name

/-- **`Registers types before after`** — the registry `after` has one value more, that of a declared
struct, under a name that had none. -/
def Registers (types : Declarations) (before after : Registry) : Prop :=
  ∃ name fields v, Dictionary.get? name types = some (.struct fields) ∧ Portrays fields v ∧
    Dictionary.get? name before = none ∧ after = Dictionary.set name v before

section Registering

variable {types : Declarations} {before after : Registry} {key : String} {v : Json}

theorem Registers.keeps (h : Registers types before after)
    (hv : Dictionary.get? key before = some v) : Dictionary.get? key after = some v := by
  obtain ⟨name, fields, value, -, -, hfree, rfl⟩ := h
  have hne : name ≠ key := by
    rintro rfl
    cases hfree.symm.trans hv
  rw [Dictionary.get?_set_ne hne]
  exact hv

theorem Registers.adds (h : Registers types before after)
    (hfree : Dictionary.get? key before = none) (hv : Dictionary.get? key after = some v) :
    ∃ fields, Dictionary.get? key types = some (.struct fields) ∧ Portrays fields v := by
  obtain ⟨name, fields, value, hdeclared, hportrays, -, rfl⟩ := h
  by_cases heq : name = key
  · subst heq
    rw [Dictionary.get?_set_self] at hv
    cases hv
    exact ⟨fields, hdeclared, hportrays⟩
  · rw [Dictionary.get?_set_ne heq] at hv
    cases hfree.symm.trans hv

/-- What is registered stays registered with the same value, however many registrations follow. -/
theorem kept_of_registered (h : ReflTransGen (Registers types) before after)
    (hv : Dictionary.get? key before = some v) : Dictionary.get? key after = some v := by
  induction h with
  | refl => exact hv
  | tail _ hstep ih => exact hstep.keeps ih

/-- Whatever has been registered in the meantime is a declared struct with an object of its exported
fields. -/
theorem added_of_registered (h : ReflTransGen (Registers types) before after)
    (hfree : Dictionary.get? key before = none) (hv : Dictionary.get? key after = some v) :
    ∃ fields, Dictionary.get? key types = some (.struct fields) ∧ Portrays fields v := by
  induction h with
  | refl => cases hfree.symm.trans hv
  | @tail middle after _ hstep ih =>
      cases hmiddle : Dictionary.get? key middle with
      | none => exact hstep.adds hmiddle hv
      | some w =>
          -- the last registration left this value alone
          have hw := hstep.keeps hmiddle
          cases hw.symm.trans hv
          exact ih hmiddle

end Registering

/-! ## §B What a run registers -/

section Runs

variable {types : Declarations} {task : Task} {bench after : Bench}
  {result : Except ExampleError Json}

/-- The members that are built for a list of fields are those built before and one for each exported
field. -/
theorem Run.members (h : Run types task bench result after) {fields : List (Field GoType)}
    {members : Dictionary Json} {v : Json} (htask : task = .fields fields members)
    (hascending : Dictionary.Ascending members) (hv : result = .ok v) :
    ∃ out, v = .obj out ∧ Dictionary.Ascending out ∧
      ∀ name, name ∈ Dictionary.names out ↔ name ∈ Dictionary.names members ∨
        ∃ f ∈ fields, isExported f.name = true ∧ f.name = name := by
  induction h generalizing fields members with
  | noFields =>
      cases htask
      cases hv
      refine ⟨_, rfl, hascending, ?_⟩
      simp
  | hiddenField hhidden _ ih =>
      cases htask
      obtain ⟨out, hout, hsorted, hnames⟩ := ih rfl hascending hv
      refine ⟨out, hout, hsorted, ?_⟩
      intro name
      rw [hnames]
      simp [hhidden]
  | failedField _ _ _ => cases hv
  | @field f fields members w bench middle after result hexported _ _ _ ihrest =>
      cases htask
      obtain ⟨out, hout, hsorted, hnames⟩ := ihrest rfl (hascending.set f.name w) hv
      refine ⟨out, hout, hsorted, ?_⟩
      intro name
      rw [hnames, Dictionary.mem_names_set]
      simp only [List.mem_cons, exists_eq_or_imp, hexported, true_and]
      tauto
  | _ => cases htask

/-- A struct that is begun is not registered by what is built meanwhile. -/
theorem Run.begun_unregistered (h : Run types task bench result after) {key : String}
    (hbegun : key ∈ bench.unfinished) (hfree : Dictionary.get? key bench.registry = none) :
    Dictionary.get? key after.registry = none := by
  induction h with
  | registered _ => exact hfree
  | leaf _ _ => exact hfree
  | wrap _ _ _ ih => exact ih hbegun hfree
  | refused _ _ _ => exact hfree
  | @struct t fields bench after result _ _ hnot _ ih =>
      have hinner := ih (List.mem_cons_of_mem _ hbegun) hfree
      rcases closed_registry t result after with hsame | ⟨_, value, -, -, hset⟩
      · rw [hsame]
        exact hinner
      · have hne : t.spelling ≠ key := by
          rintro rfl
          exact hnot hbegun
        rw [hset, Dictionary.get?_set_ne hne]
        exact hinner
  | noFields => exact hfree
  | hiddenField _ _ ih => exact ih hbegun hfree
  | failedField _ _ ih => exact ih hbegun hfree
  | field _ hfirst _ ihfirst ihrest =>
      have hmiddle := hfirst.unfinished_eq
      exact ihrest (hmiddle ▸ hbegun) (ihfirst hbegun hfree)

/-- A run registers declared structs, one after the other and each under a name that has no value at
that time. -/
theorem Run.registers (h : Run types task bench result after) :
    ReflTransGen (Registers types) bench.registry after.registry := by
  induction h with
  | registered _ => exact .refl
  | leaf _ _ => exact .refl
  | wrap _ _ _ ih => exact ih
  | refused _ _ _ => exact .refl
  | @struct t fields bench after result hget hlayer _ hrun ih =>
      rcases closed_registry t result after with hsame | ⟨name, value, rfl, rfl, hset⟩
      · rw [hsame]
        exact ih
      · rw [hset]
        have hspelling : (GoType.named none name).spelling = name := String.ofList_toList
        have hfree := hrun.begun_unregistered List.mem_cons_self hget
        have hdeclared : Dictionary.get? name types = some (.struct fields) := by
          rcases layer_struct hlayer with hwritten | ⟨other, hname, hdeclared⟩
          · cases hwritten
          · cases hname
            exact hdeclared
        have hportrays : Portrays fields value := by
          obtain ⟨members, hvalue, hascending, hnames⟩ :=
            hrun.members rfl Dictionary.ascending_nil rfl
          refine ⟨members, hvalue, hascending, ?_⟩
          intro field
          rw [hnames, Dictionary.names_nil]
          simp only [List.not_mem_nil, false_or]
        rw [hspelling] at hfree ⊢
        exact ih.tail ⟨name, fields, value, hdeclared, hportrays, hfree, rfl⟩
  | noFields => exact .refl
  | hiddenField _ _ ih => exact ih
  | failedField _ _ ih => exact ih
  | field _ _ _ ihfirst ihrest => exact ihfirst.trans ihrest

/-- What is registered stays registered, with the same value. -/
theorem Run.keeps (h : Run types task bench result after) {key : String} {v : Json}
    (hv : Dictionary.get? key bench.registry = some v) :
    Dictionary.get? key after.registry = some v :=
  kept_of_registered h.registers hv

end Runs

/-! ## §C What building leaves -/

/-- **`Frame types before after`** — the same structs are begun, and the registry has grown by
declared structs only. -/
structure Frame (types : Declarations) (before after : Bench) : Prop where
  unfinished : after.unfinished = before.unfinished
  registered : ReflTransGen (Registers types) before.registry after.registry

section Frames

variable {types : Declarations} {a b c : Bench}

theorem Frame.refl (types : Declarations) (bench : Bench) : Frame types bench bench :=
  ⟨rfl, .refl⟩

theorem Frame.trans (hab : Frame types a b) (hbc : Frame types b c) : Frame types a c :=
  ⟨hbc.unfinished.trans hab.unfinished, hab.registered.trans hbc.registered⟩

/-- What is registered stays registered, with the same value. -/
theorem Frame.keeps (h : Frame types a b) {key : String} {v : Json}
    (hv : Dictionary.get? key a.registry = some v) : Dictionary.get? key b.registry = some v :=
  kept_of_registered h.registered hv

/-- Whatever is registered in addition is a declared struct. -/
theorem Frame.adds (h : Frame types a b) {key : String} {v : Json}
    (hfree : Dictionary.get? key a.registry = none) (hv : Dictionary.get? key b.registry = some v) :
    ∃ fields, Dictionary.get? key types = some (.struct fields) ∧ Portrays fields v :=
  added_of_registered h.registered hfree hv

theorem frame_of_answer {t : GoType} {bench after : Bench} {fuel : Nat}
    {result : Except ExampleError Json}
    (h : typeWithin types fuel t bench = some (result, after)) : Frame types bench after := by
  have hrun := (ran types fuel).ofType t bench result after h
  exact ⟨hrun.unfinished_eq, hrun.registers⟩

/-- The example of a type leaves the bench as it should, whether there is one or not. -/
theorem frame_ofType (types : Declarations) (t : GoType) (bench : Bench) :
    Frame types bench (ofType types t bench).2 := by
  rw [ofType]
  cases hanswer : typeWithin types (steps types t) t bench with
  | none => exact .refl types bench
  | some answer => exact frame_of_answer hanswer

/-- The same holds of examples in turn, up to the first that fails. -/
theorem frame_ofTypes (types : Declarations) (ts : List GoType) (bench : Bench) :
    Frame types bench (ofTypes types ts bench).2 := by
  induction ts generalizing bench with
  | nil => exact .refl types bench
  | cons t ts ih =>
      have hfirst := frame_ofType types t bench
      rw [ofTypes]
      rcases hanswer : ofType types t bench with ⟨_ | v, middle⟩
      · rw [hanswer] at hfirst
        exact hfirst
      · rw [hanswer] at hfirst
        have hrest := ih middle
        dsimp only
        rcases hothers : ofTypes types ts middle with ⟨_ | vs, after⟩ <;>
          · rw [hothers] at hrest
            exact hfirst.trans hrest

/-- **The examples of a method leave a bench for the next method**, also where one of them fails: no
struct stays begun, what is registered stays, and only declared structs are added. -/
theorem frame_ofMethod (types : Declarations) (params results : List GoType) (bench : Bench) :
    Frame types bench (ofMethod types params results bench).2 := by
  have hinputs := frame_ofTypes types (params.drop 1) bench
  rw [ofMethod]
  rcases hanswer : ofTypes types (params.drop 1) bench with ⟨_ | inputs, middle⟩
  · rw [hanswer] at hinputs
    exact hinputs
  · rw [hanswer] at hinputs
    cases results with
    | nil => exact hinputs
    | cons result others =>
        have hresponse := frame_ofType types result middle
        dsimp only
        rcases hlast : ofType types result middle with ⟨_ | response, after⟩ <;>
          · rw [hlast] at hresponse
            exact hinputs.trans hresponse

end Frames

/-- Wherever building the example of a type ends, with any number of steps, on any bench and whether
with a value or an error: this is the example of the type; the structs that are begun afterwards are
those begun before; every value that was registered is registered still; and whatever is registered
in addition is under a name that is declared as a struct, and is an object with one member for each
exported field of that declaration and no others. -/
theorem ofType_leaves (types : Declarations) (t : GoType) (bench after : Bench) (fuel : Nat)
    (result : Except ExampleError Json)
    (h : typeWithin types fuel t bench = some (result, after)) :
    ofType types t bench = (result, after) ∧ after.unfinished = bench.unfinished ∧
      (∀ key v, Dictionary.get? key bench.registry = some v →
        Dictionary.get? key after.registry = some v) ∧
      ∀ key v, Dictionary.get? key bench.registry = none →
        Dictionary.get? key after.registry = some v →
          ∃ fields, Dictionary.get? key types = some (.struct fields) ∧ Portrays fields v := by
  have hframe := frame_of_answer h
  refine ⟨ofType_eq_of_answer h, hframe.unfinished, ?_, ?_⟩
  · intro key v hv
    exact hframe.keeps hv
  · intro key v hfree hv
    exact hframe.adds hfree hv

/-- A name that comes back to itself, below a struct, and a struct with a field of unknown type
behind it. -/
def ringTypes : Declarations :=
  [("Leaf", .struct [⟨"Around", .plain "Ring", false⟩, ⟨"hidden", .plain "Ring", false⟩]),
    ("Pair", .struct [⟨"First", .plain "Leaf", false⟩, ⟨"Second", .plain "Missing", false⟩]),
    ("Ring", .slice (.plain "Ring"))]

/-- With that name registered building ends. It fails behind the inner struct, which is registered,
and the outer one is not. -/
theorem ofType_leaves_ring :
    typeWithin ringTypes 9 (.plain "Pair") ⟨[("Ring", .null)], ["Outer"]⟩ =
        some (.error (.unresolved "Missing"),
          ⟨[("Leaf", .obj [("Around", .null)]), ("Ring", .null)], ["Outer"]⟩) ∧
      ofType ringTypes (.plain "Pair") ⟨[("Ring", .null)], ["Outer"]⟩ =
        (.error (.unresolved "Missing"),
          ⟨[("Leaf", .obj [("Around", .null)]), ("Ring", .null)], ["Outer"]⟩) ∧
      ∃ fields, Dictionary.get? "Leaf" ringTypes = some (.struct fields) ∧
        Portrays fields (.obj [("Around", .null)]) := by
  have hends : typeWithin ringTypes 9 (.plain "Pair") ⟨[("Ring", .null)], ["Outer"]⟩ =
      some (.error (.unresolved "Missing"),
        ⟨[("Leaf", .obj [("Around", .null)]), ("Ring", .null)], ["Outer"]⟩) := rfl
  obtain ⟨hexample, -, -, hadded⟩ := ofType_leaves ringTypes (.plain "Pair") _ _ 9 _ hends
  exact ⟨hends, hexample, hadded "Leaf" _ rfl rfl⟩

end RollCall.Example
