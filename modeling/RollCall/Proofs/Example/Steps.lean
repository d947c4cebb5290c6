import RollCall.Proofs.Budget
import RollCall.Proofs.Example.Layer

/-!
# RollCall.Proofs.Example.Steps — the steps suffice

Nothing becomes smaller on every way through the types: a name is replaced by a larger declaration,
and a struct can come back to itself through its fields. The steps are counted on three levels. A
struct is begun only while its spelling is not among those begun, and there are finitely many
spellings. Between two structs each declared name is followed once, because the names that follow one
another without a struct form no circle. Between two names the type expression shrinks.

`TypeEnds` says that a number of steps suffices whatever is registered.
-/

namespace RollCall.Example

open Relation (TransGen)

/-! ## §A Names that follow one another -/

/-- The name that a type comes down to through slices, channels and arrays of known length. -/
def bottom? : GoType → Option String
  | .named none name => some name
  | .slice elem => bottom? elem
  | .chan elem => bottom? elem
  | .array (some _) elem => bottom? elem
  | _ => none

/-- The declaration of the name `outer` comes down to the name `inner`, with no struct between. -/
def Unfolds (types : Declarations) (outer inner : String) : Prop :=
  ∃ declared, Dictionary.get? outer types = some declared ∧ bottom? declared = some inner

/-- No declared name comes down to itself without a struct. -/
def NoCircle (types : Declarations) : Prop :=
  ∀ name, ¬TransGen (Unfolds types) name name

/-- A type stands at the end of a chain of names: where it comes down to a name that is not declared
as a struct, all names visited lead there. -/
def Chained (types : Declarations) (visited : List String) (t : GoType) : Prop :=
  ∀ name declared, bottom? t = some name → Dictionary.get? name types = some declared →
    declared.isStruct = false → ∀ v ∈ visited, TransGen (Unfolds types) v name

theorem chained_nil (types : Declarations) (t : GoType) : Chained types [] t :=
  fun _ _ _ _ _ _ hv => absurd hv List.not_mem_nil

/-- Going down within a type expression goes to the same name, or through a pointer to a struct. -/
theorem Chained.holds {types : Declarations} {visited : List String} {t inner : GoType}
    {dress : Json → Json} (h : Chained types visited t) (hlayer : layer types t = .wrap inner dress)
    (hholds : Holds t inner) : Chained types visited inner := by
  cases hholds with
  | slice elem => exact h
  | chan elem => exact h
  | array length elem =>
      cases length with
      | none => cases hlayer
      | some n => exact h
  | pointer elem =>
      intro name declared hbottom hget hstruct
      rw [layer] at hlayer
      split at hlayer
      · rename_i hleads
        unfold leadsToStruct at hleads
        split at hleads
        · cases hbottom
        · cases hbottom
          rw [hget] at hleads
          exact absurd (hstruct.symm.trans hleads) Bool.false_ne_true
        · cases hleads
      · cases hlayer
  | mapKey key value => cases hlayer
  | mapValue key value => cases hlayer
  | field hf => cases hlayer

/-- Following a name adds it to the chain. -/
theorem Chained.unfold {types : Declarations} {visited : List String} {name : String}
    {declared : GoType} (h : Chained types visited (.named none name))
    (hget : Dictionary.get? name types = some declared) (hstruct : declared.isStruct = false) :
    Chained types (name :: visited) declared := by
  intro inner declared' hbottom hget' hstruct' v hv
  have hstep : Unfolds types name inner := ⟨declared, hget, hbottom⟩
  rcases List.mem_cons.mp hv with rfl | hv
  · exact .single hstep
  · exact (h name declared rfl hget hstruct v hv).tail hstep

/-- Without circles no name is followed twice. -/
theorem Chained.not_mem {types : Declarations} (hcircle : NoCircle types) {visited : List String}
    {name : String} {declared : GoType} (h : Chained types visited (.named none name))
    (hget : Dictionary.get? name types = some declared) (hstruct : declared.isStruct = false) :
    name ∉ visited :=
  fun hin => hcircle name (h name declared rfl hget hstruct name hin)

/-! ## §B Spellings of structs -/

mutual

/-- The spellings of the structs that are written out in a type. -/
def structKeys : GoType → List String
  | .pointer elem => structKeys elem
  | .slice elem => structKeys elem
  | .array _ elem => structKeys elem
  | .chan elem => structKeys elem
  | .map key value => structKeys key ++ structKeys value
  | .struct fields => (GoType.struct fields).spelling :: structKeysFields fields
  | .named _ _ => []
  | .interface => []
  | .func _ => []
  | .other _ => []

/-- The spellings of the structs that are written out in a list of fields. -/
def structKeysFields : List (Field GoType) → List String
  | [] => []
  | ⟨_, type, _⟩ :: fields => structKeys type ++ structKeysFields fields

end

mutual

theorem length_structKeys_le (t : GoType) : (structKeys t).length ≤ weight t := by
  cases t with
  | pointer elem => exact Nat.le_succ_of_le (length_structKeys_le elem)
  | slice elem => exact Nat.le_succ_of_le (length_structKeys_le elem)
  | array length elem => exact Nat.le_succ_of_le (length_structKeys_le elem)
  | chan elem => exact Nat.le_succ_of_le (length_structKeys_le elem)
  | map key value =>
      have hkey := length_structKeys_le key
      have hvalue := length_structKeys_le value
      rw [structKeys, weight, List.length_append]
      omega
  | struct fields =>
      have hfields := length_structKeysFields_le fields
      rw [structKeys, weight, List.length_cons]
      omega
  | named package name => exact Nat.zero_le _
  | interface => exact Nat.zero_le _
  | func text => exact Nat.zero_le _
  | other text => exact Nat.zero_le _

theorem length_structKeysFields_le (fields : List (Field GoType)) :
    (structKeysFields fields).length ≤ weightFields fields := by
  match fields with
  | [] => exact Nat.zero_le _
  | ⟨name, type, embedded⟩ :: fields =>
      have htype := length_structKeys_le type
      have hfields := length_structKeysFields_le fields
      rw [structKeysFields, weightFields, List.length_append]
      omega

end

theorem structKeys_field {f : Field GoType} {fields : List (Field GoType)} (h : f ∈ fields) :
    structKeys f.type ⊆ structKeysFields fields := by
  induction fields with
  | nil => cases h
  | cons g fields ih =>
      rw [structKeysFields]
      rcases List.mem_cons.mp h with rfl | h
      · exact List.subset_append_left _ _
      · exact List.Subset.trans (ih h) (List.subset_append_right _ _)

theorem structKeys_holds {t inner : GoType} (h : Holds t inner) : structKeys inner ⊆ structKeys t := by
  cases h with
  | mapKey key value =>
      rw [structKeys]
      exact List.subset_append_left _ _
  | mapValue key value =>
      rw [structKeys]
      exact List.subset_append_right _ _
  | field hf =>
      rw [structKeys]
      exact List.subset_cons_of_subset _ (structKeys_field hf)
  | _ =>
      rw [structKeys]
      exact List.Subset.refl _

theorem weight_pos (t : GoType) : 1 ≤ weight t := by
  cases t <;> rw [weight] <;> omega

theorem weightFields_pos (fields : List (Field GoType)) : 1 ≤ weightFields fields := by
  cases fields with
  | nil => exact Nat.le_refl 1
  | cons field fields =>
      rw [weightFields]
      omega

theorem weight_field_lt {f : Field GoType} {fields : List (Field GoType)} (h : f ∈ fields) :
    weight f.type < weightFields fields := by
  induction fields with
  | nil => cases h
  | cons g fields ih =>
      rw [weightFields]
      rcases List.mem_cons.mp h with rfl | h
      · omega
      · have hlt := ih h
        omega

theorem weight_holds_lt {t inner : GoType} (h : Holds t inner) : weight inner < weight t := by
  cases h with
  | field hf => exact Nat.lt_succ_of_lt (weight_field_lt hf)
  | _ =>
      rw [weight]
      omega

/-- The spellings under which a struct can be begun while an example of the type is built. -/
def allKeys (types : Declarations) (t : GoType) : List String :=
  structKeys t ++ types.flatMap fun entry =>
    (GoType.plain entry.1).spelling :: structKeys entry.2

/-- A list has the spellings of all declared structs and of those written out in declarations. -/
def Keyed (types : Declarations) (keys : List String) : Prop :=
  ∀ name declared, Dictionary.get? name types = some declared →
    (GoType.plain name).spelling ∈ keys ∧ structKeys declared ⊆ keys

theorem keyed_allKeys (types : Declarations) (t : GoType) : Keyed types (allKeys types t) := by
  intro name declared hget
  have hmem := Dictionary.mem_of_get? hget
  have hsubset : (GoType.plain name).spelling :: structKeys declared ⊆ allKeys types t := by
    intro key hkey
    exact List.mem_append_right _ (List.mem_flatMap.mpr ⟨(name, declared), hmem, hkey⟩)
  exact ⟨hsubset List.mem_cons_self, fun key hkey => hsubset (List.mem_cons_of_mem _ hkey)⟩

/-! ## §C Steps that suffice whatever is registered -/

mutual

/-- The steps suffice for a type. -/
def TypeEnds (types : Declarations) : Nat → GoType → List String → Prop
  | 0, _, _ => False
  | fuel + 1, t, unfinished =>
    match layer types t with
    | .leaf _ => True
    | .wrap inner _ => TypeEnds types fuel inner unfinished
    | .struct fields => StructEnds types fuel t.spelling fields unfinished

/-- The steps suffice for a struct known by a spelling. -/
def StructEnds (types : Declarations) : Nat → String → List (Field GoType) → List String → Prop
  | 0, _, _, _ => False
  | fuel + 1, key, fields, unfinished =>
    key ∉ unfinished → FieldsEnd types fuel fields (key :: unfinished)

/-- The steps suffice for the exported ones of a list of fields. -/
def FieldsEnd (types : Declarations) : Nat → List (Field GoType) → List String → Prop
  | 0, _, _ => False
  | _ + 1, [], _ => True
  | fuel + 1, field :: fields, unfinished =>
    (isExported field.name = true → TypeEnds types fuel field.type unfinished) ∧
      FieldsEnd types fuel fields unfinished

end

/-- How many structs can still be begun. -/
def unbegun (keys unfinished : List String) : Nat := Budget.left id (fun _ => 1) unfinished keys

/-- What following the names not yet visited can still take. -/
def unvisited (types : Declarations) (visited : List String) : Nat :=
  Budget.left Prod.fst (fun entry => weight entry.2 + 2) visited types

/-- What can happen between two structs, at most. -/
def span (types : Declarations) : Nat := 2 * unvisited types [] + 2

/-- **`Enough types keys fuel`** — the steps suffice wherever the count of structs, names and nodes
says so. -/
structure Enough (types : Declarations) (keys : List String) (fuel : Nat) : Prop where
  ofType : ∀ t unfinished visited, structKeys t ⊆ keys → Chained types visited t →
    unbegun keys unfinished * span types + unvisited types visited + weight t + 1 ≤ fuel →
      TypeEnds types fuel t unfinished
  ofStruct : ∀ key fields unfinished, structKeysFields fields ⊆ keys → 1 ≤ fuel →
    (key ∉ unfinished → unbegun keys (key :: unfinished) * span types + unvisited types [] +
      weightFields fields + 1 ≤ fuel) → StructEnds types fuel key fields unfinished
  ofFields : ∀ fields unfinished, structKeysFields fields ⊆ keys →
    unbegun keys unfinished * span types + unvisited types [] + weightFields fields ≤ fuel →
      FieldsEnd types fuel fields unfinished

section Counting

variable {types : Declarations} {keys : List String} {fuel : Nat}

/-- Beginning a struct takes one off the structs that can be begun. -/
theorem unbegun_cons_lt {key : String} {unfinished : List String} (hkey : key ∈ keys)
    (hnot : key ∉ unfinished) : unbegun keys (key :: unfinished) + 1 ≤ unbegun keys unfinished :=
  Budget.left_add_cost_le id (fun _ => 1) (fun _ h => List.mem_cons_of_mem _ h) hkey hnot
    List.mem_cons_self

theorem unbegun_cons_mul_le {key : String} {unfinished : List String} (hkey : key ∈ keys)
    (hnot : key ∉ unfinished) (each : Nat) :
    unbegun keys (key :: unfinished) * each + each ≤ unbegun keys unfinished * each := by
  rw [← Nat.succ_mul]
  exact Nat.mul_le_mul_right _ (unbegun_cons_lt hkey hnot)

/-- Following a name pays for its declaration. -/
theorem unvisited_cons_add_le {name : String} {declared : GoType} {visited : List String}
    (hget : Dictionary.get? name types = some declared) (hnot : name ∉ visited) :
    unvisited types (name :: visited) + (weight declared + 2) ≤ unvisited types visited :=
  Budget.left_add_cost_le Prod.fst (fun entry => weight entry.2 + 2)
    (fun _ h => List.mem_cons_of_mem _ h) (Dictionary.mem_of_get? hget) hnot List.mem_cons_self

theorem weight_le_unvisited {name : String} {declared : GoType}
    (hget : Dictionary.get? name types = some declared) :
    weight declared + 2 ≤ unvisited types [] := by
  have h := unvisited_cons_add_le hget List.not_mem_nil
  omega

/-- A struct layer has a known spelling, and what its fields weigh is accounted for. -/
theorem layer_struct_counted (hkeys : Keyed types keys) {t : GoType} (hin : structKeys t ⊆ keys)
    {fields : List (Field GoType)} (h : layer types t = .struct fields) :
    t.spelling ∈ keys ∧ structKeysFields fields ⊆ keys ∧
      weightFields fields ≤ weight t + unvisited types [] := by
  rcases layer_struct h with rfl | ⟨name, rfl, hget⟩
  · rw [structKeys] at hin
    refine ⟨hin List.mem_cons_self, fun key hkey => hin (List.mem_cons_of_mem _ hkey), ?_⟩
    rw [weight]
    omega
  · obtain ⟨hname, hdeclared⟩ := hkeys name _ hget
    have hweight := weight_le_unvisited hget
    rw [structKeys] at hdeclared
    rw [weight] at hweight
    exact ⟨hname, fun key hkey => hdeclared (List.mem_cons_of_mem _ hkey), by omega⟩

theorem Enough.ofType_succ (hcircle : NoCircle types) (hkeys : Keyed types keys)
    (h : Enough types keys fuel) {t : GoType} {unfinished visited : List String}
    (hin : structKeys t ⊆ keys) (hchained : Chained types visited t)
    (hfuel : unbegun keys unfinished * span types + unvisited types visited + weight t ≤ fuel) :
    TypeEnds types (fuel + 1) t unfinished := by
  rw [TypeEnds]
  cases hlayer : layer types t with
  | leaf result => trivial
  | wrap inner dress =>
      rcases layer_wrap hlayer with hholds | ⟨name, rfl, hget, hstruct⟩
      · have hlt := weight_holds_lt hholds
        exact h.ofType inner unfinished visited
          (List.Subset.trans (structKeys_holds hholds) hin) (hchained.holds hlayer hholds)
          (by omega)
      · -- the name is followed for the first time, so its declaration has not been paid for
        have hpaid := unvisited_cons_add_le hget (hchained.not_mem hcircle hget hstruct)
        exact h.ofType inner unfinished (name :: visited) (hkeys name inner hget).2
          (hchained.unfold hget hstruct) (by omega)
  | struct fields =>
      obtain ⟨hkey, hfields, hweight⟩ := layer_struct_counted hkeys hin hlayer
      have hpos := weight_pos t
      -- beginning the struct uses up its spelling, and what that frees is enough to start over
      refine h.ofStruct t.spelling fields unfinished hfields (by omega) fun hnot => ?_
      have hpaid := unbegun_cons_mul_le hkey hnot (span types)
      have hspan : span types = 2 * unvisited types [] + 2 := rfl
      omega

theorem Enough.ofStruct_succ (h : Enough types keys fuel) {key : String}
    {fields : List (Field GoType)} {unfinished : List String}
    (hfields : structKeysFields fields ⊆ keys)
    (hfuel : key ∉ unfinished → unbegun keys (key :: unfinished) * span types + unvisited types [] +
      weightFields fields ≤ fuel) : StructEnds types (fuel + 1) key fields unfinished := by
  rw [StructEnds]
  intro hnot
  exact h.ofFields fields (key :: unfinished) hfields (hfuel hnot)

theorem Enough.ofFields_succ (h : Enough types keys fuel) {fields : List (Field GoType)}
    {unfinished : List String} (hfields : structKeysFields fields ⊆ keys)
    (hfuel : unbegun keys unfinished * span types + unvisited types [] + weightFields fields ≤
      fuel + 1) : FieldsEnd types (fuel + 1) fields unfinished := by
  cases fields with
  | nil => trivial
  | cons field fields =>
      rw [weightFields] at hfuel
      rw [structKeysFields] at hfields
      have hpos := weightFields_pos fields
      rw [FieldsEnd]
      constructor
      · intro _
        exact h.ofType field.type unfinished []
          (fun key hkey => hfields (List.mem_append_left _ hkey)) (chained_nil types field.type)
          (by omega)
      · exact h.ofFields fields unfinished
          (fun key hkey => hfields (List.mem_append_right _ hkey)) (by omega)

theorem enough (hcircle : NoCircle types) (hkeys : Keyed types keys) (fuel : Nat) :
    Enough types keys fuel := by
  induction fuel with
  | zero =>
      refine ⟨?_, ?_, ?_⟩
      · intro t unfinished visited _ _ hfuel
        omega
      · intro key fields unfinished _ hfuel
        omega
      · intro fields unfinished _ hfuel
        have hpos := weightFields_pos fields
        omega
  | succ fuel ih =>
      refine ⟨?_, ?_, ?_⟩
      · intro t unfinished visited hin hchained hfuel
        exact ih.ofType_succ hcircle hkeys hin hchained (by omega)
      · intro key fields unfinished hfields _ hfuel
        exact ih.ofStruct_succ hfields fun hnot => by have hle := hfuel hnot; omega
      · intro fields unfinished hfields hfuel
        exact ih.ofFields_succ hfields hfuel

theorem length_allKeys_le (types : Declarations) (t : GoType) :
    (allKeys types t).length ≤ weight t + unvisited types [] := by
  have hdeclared : (types.flatMap fun entry =>
      (GoType.plain entry.1).spelling :: structKeys entry.2).length ≤ unvisited types [] := by
    induction types with
    | nil => exact Nat.le_refl _
    | cons entry types ih =>
        have hentry := length_structKeys_le entry.2
        rw [List.flatMap_cons, List.length_append, List.length_cons, unvisited, Budget.left_cons,
          if_neg List.not_mem_nil, ← unvisited]
        omega
  have ht := length_structKeys_le t
  rw [allKeys, List.length_append]
  omega

theorem steps_eq (types : Declarations) (t : GoType) :
    steps types t = 4 * (unvisited types [] + (weight t + 2)) * (unvisited types [] + (weight t + 2)) := by
  rw [unvisited, Budget.left_nothing_paid]
  rfl

/-- The steps cover the count, whatever structs are begun. -/
theorem count_le_steps (types : Declarations) (t : GoType) (unfinished : List String) :
    unbegun (allKeys types t) unfinished * span types + unvisited types [] + weight t + 1 ≤
      steps types t := by
  have hbegun : unbegun (allKeys types t) unfinished ≤ unvisited types [] + (weight t + 2) := by
    have hlength := length_allKeys_le types t
    have hleft : unbegun (allKeys types t) unfinished ≤ (allKeys types t).length :=
      Budget.left_one_le_length id unfinished (allKeys types t)
    omega
  have hspan : span types ≤ 2 * (unvisited types [] + (weight t + 2)) := by
    rw [span]
    omega
  have hmul := Nat.mul_le_mul hbegun hspan
  have hself := Nat.le_mul_self (unvisited types [] + (weight t + 2))
  rw [steps_eq, Nat.mul_assoc 4]
  rw [Nat.mul_left_comm] at hmul
  omega

/-- Where the declared names have no circle without a struct, the steps suffice for every type, and
whatever structs are begun. -/
theorem typeEnds_steps (hcircle : NoCircle types) (t : GoType) (unfinished : List String) :
    TypeEnds types (steps types t) t unfinished :=
  (enough hcircle (keyed_allKeys types t) (steps types t)).ofType t unfinished []
    (List.subset_append_left _ _) (chained_nil types t) (count_le_steps types t unfinished)

end Counting

/-! ## §D Building ends -/

/-- **`Settled answer unfinished`** — there is an answer, and every struct begun on the way is
finished, whether the answer is a value or an error. -/
def Settled {α : Type} (answer : Answer α) (unfinished : List String) : Prop :=
  ∃ result registry, answer = some (result, ⟨registry, unfinished⟩)

theorem Settled.map {α β : Type} {answer : Answer α} {unfinished : List String}
    (h : Settled answer unfinished) (f : α → β) : Settled (answer.map f) unfinished := by
  obtain ⟨result, registry, rfl⟩ := h
  cases result with
  | error e => exact ⟨.error e, registry, rfl⟩
  | ok v => exact ⟨.ok (f v), registry, rfl⟩

theorem Settled.keep {t : GoType} {answer : Answer Json} {unfinished : List String}
    (h : Settled answer unfinished) : Settled (keep t answer) unfinished := by
  obtain ⟨result, registry, rfl⟩ := h
  rcases keep_some t result ⟨registry, unfinished⟩ with hkeep | ⟨value, -, hkeep⟩
  · exact ⟨result, registry, hkeep⟩
  · exact ⟨result, _, hkeep⟩

/-- **`Ending types fuel`** — where the steps suffice, they lead to an answer. -/
structure Ending (types : Declarations) (fuel : Nat) : Prop where
  ofType : ∀ t bench, TypeEnds types fuel t bench.unfinished →
    Settled (typeWithin types fuel t bench) bench.unfinished
  ofStruct : ∀ key fields bench, StructEnds types fuel key fields bench.unfinished →
    Settled (structWithin types fuel key fields bench) bench.unfinished
  ofFields : ∀ fields members bench, FieldsEnd types fuel fields bench.unfinished →
    Settled (fieldsWithin types fuel fields members bench) bench.unfinished

section Answers

variable {types : Declarations} {fuel : Nat}

theorem Ending.ofType_succ (h : Ending types fuel) (t : GoType) (bench : Bench)
    (hends : TypeEnds types (fuel + 1) t bench.unfinished) :
    Settled (typeWithin types (fuel + 1) t bench) bench.unfinished := by
  rw [TypeEnds] at hends
  rw [typeWithin_succ]
  cases Dictionary.get? t.spelling bench.registry with
  | some value => exact ⟨.ok value, bench.registry, rfl⟩
  | none =>
      cases hlayer : layer types t with
      | leaf result => exact ⟨result, bench.registry, rfl⟩
      | wrap inner dress =>
          rw [hlayer] at hends
          exact (h.ofType inner bench hends).map dress
      | struct fields =>
          rw [hlayer] at hends
          exact (h.ofStruct t.spelling fields bench hends).keep

theorem Ending.ofStruct_succ (h : Ending types fuel) (key : String) (fields : List (Field GoType))
    (bench : Bench) (hends : StructEnds types (fuel + 1) key fields bench.unfinished) :
    Settled (structWithin types (fuel + 1) key fields bench) bench.unfinished := by
  rw [StructEnds] at hends
  rw [structWithin]
  by_cases hin : bench.unfinished.contains key = true
  · rw [if_pos hin]
    exact ⟨.error (.recursive key), bench.registry, rfl⟩
  · rw [if_neg hin]
    have hnot : key ∉ bench.unfinished := fun hmem => hin (List.contains_iff_mem.mpr hmem)
    obtain ⟨result, registry, hfields⟩ :=
      h.ofFields fields [] { bench with unfinished := key :: bench.unfinished } (hends hnot)
    rw [hfields]
    exact ⟨result.map Json.obj, registry, rfl⟩

theorem Ending.ofFields_succ (h : Ending types fuel) (fields : List (Field GoType))
    (members : Dictionary Json) (bench : Bench)
    (hends : FieldsEnd types (fuel + 1) fields bench.unfinished) :
    Settled (fieldsWithin types (fuel + 1) fields members bench) bench.unfinished := by
  cases fields with
  | nil => exact ⟨.ok members, bench.registry, rfl⟩
  | cons field fields =>
      rw [FieldsEnd] at hends
      obtain ⟨htype, hrest⟩ := hends
      rw [fieldsWithin]
      by_cases hexported : isExported field.name = true
      · rw [if_pos hexported]
        obtain ⟨result, registry, hfirst⟩ := h.ofType field.type bench (htype hexported)
        rw [hfirst]
        cases result with
        | error e => exact ⟨.error e, registry, rfl⟩
        | ok value => exact h.ofFields fields _ ⟨registry, bench.unfinished⟩ hrest
      · rw [if_neg hexported]
        exact h.ofFields fields members bench hrest

theorem ending (types : Declarations) (fuel : Nat) : Ending types fuel := by
  induction fuel with
  | zero => exact ⟨nofun, nofun, nofun⟩
  | succ fuel ih => exact ⟨ih.ofType_succ, ih.ofStruct_succ, ih.ofFields_succ⟩

end Answers

end RollCall.Example
