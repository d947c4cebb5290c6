import RollCall.Example.Registry
import RollCall.GoType.Spelling
import RollCall.Json.Writer
import RollCall.MethodName

/-!
# RollCall.Example.Generate — an example value for a type

A registered type has its registered value. Otherwise the value is built from the shape of the type:
a slice holds one element, an array as many as its length says, a channel and a pointer to a struct
have the value of what they lead to, a struct has its exported fields, and a name has the value of
its declaration. A struct that is met again while its own fields are being built has no example, and
nothing else ends a cycle. The value of a declared struct is registered as soon as it is built.

Declarations can refer to one another in circles, so the recursion runs on a count of steps. `none`
means that the count was too small; `steps` is large enough wherever the declarations have no circle
of names that passes through no struct.
-/

namespace RollCall

/-- Why a type has no example. -/
inductive ExampleError where
  /-- The kind of the type has no example value. -/
  | noExample (spelling : String)
  /-- The struct is part of its own fields. -/
  | recursive (spelling : String)
  /-- The name is neither registered nor declared. -/
  | unresolved (spelling : String)
deriving DecidableEq, Repr

namespace ExampleError

/-- The wording of an error. -/
def message : ExampleError → String
  | .noExample spelling => "No example value for type: " ++ spelling
  | .recursive spelling => "No example value for type: " ++ spelling ++ " (recursive)"
  | .unresolved spelling =>
    "Unresolved type '" ++ spelling ++ "' (not registered and not declared in the package)"

end ExampleError

/-- Declared types by name. -/
abbrev Declarations := Dictionary GoType

namespace Example

/-- What examples are built with: the registry, which grows, and the spellings of the structs whose
fields are being built, the innermost first. -/
structure Bench where
  registry : Registry
  unfinished : List String

/-- A bench with no struct begun. -/
def Bench.fresh (registry : Registry) : Bench := ⟨registry, []⟩

/-- The answer of one building step with the bench after it; nothing when the steps ran out. -/
abbrev Answer (α : Type) := Option (Except ExampleError α × Bench)

/-- Changes the value of an answer. -/
def Answer.map (f : α → β) : Answer α → Answer β
  | none => none
  | some (.error e, bench) => some (.error e, bench)
  | some (.ok v, bench) => some (.ok (f v), bench)

/-- Whether a type is a struct, written out or by the name of a declaration that is one. -/
def leadsToStruct (types : Declarations) : GoType → Bool
  | .struct _ => true
  | .named none name =>
    match Dictionary.get? name types with
    | some declared => declared.isStruct
    | none => false
  | _ => false

mutual

/-- The example of a type. The copies in an array are a list of any length; that there can be too many
of them for the memory of a machine is outside of this model. -/
def typeWithin (types : Declarations) : Nat → GoType → Bench → Answer Json
  | 0, _, _ => none
  | fuel + 1, t, bench =>
    let key := t.spelling
    match Dictionary.get? key bench.registry with
    | some value => some (.ok value, bench)
    | none =>
      match t with
      | .slice elem => (typeWithin types fuel elem bench).map fun v => .arr [v]
      | .chan elem => typeWithin types fuel elem bench
      | .array (some n) elem =>
        (typeWithin types fuel elem bench).map fun v => .arr (List.replicate n v)
      | .struct fields => structWithin types fuel key fields bench
      | .pointer elem =>
        if leadsToStruct types elem then typeWithin types fuel elem bench
        else some (.error (.noExample key), bench)
      | .interface => some (.ok Json.empty, bench)
      | .named none name =>
        match Dictionary.get? name types with
        | none =>
          some (.error (if isExported name then .unresolved key else .noExample key), bench)
        | some (.struct fields) =>
          match structWithin types fuel key fields bench with
          | some (.ok value, bench) =>
            some (.ok value, { bench with registry := Dictionary.set key value bench.registry })
          | answer => answer
        | some declared => typeWithin types fuel declared bench
      | .named (some _) _ => some (.error (.unresolved key), bench)
      | .array none _ => some (.error (.noExample key), bench)
      | .map _ _ => some (.error (.noExample key), bench)
      | .func _ => some (.error (.noExample key), bench)
      | .other _ => some (.error (.noExample key), bench)

/-- The example of a struct known by a spelling. -/
def structWithin (types : Declarations) :
    Nat → String → List (Field GoType) → Bench → Answer Json
  | 0, _, _, _ => none
  | fuel + 1, key, fields, bench =>
    if bench.unfinished.contains key then some (.error (.recursive key), bench)
    else
      match fieldsWithin types fuel fields []
          { bench with unfinished := key :: bench.unfinished } with
      | none => none
      | some (result, bench) =>
        some (result.map Json.obj, { bench with unfinished := bench.unfinished.tail })

/-- The examples of the exported fields, added to the members built before. -/
def fieldsWithin (types : Declarations) :
    Nat → List (Field GoType) → Dictionary Json → Bench → Answer (Dictionary Json)
  | 0, _, _, _ => none
  | _ + 1, [], members, bench => some (.ok members, bench)
  | fuel + 1, field :: fields, members, bench =>
    if isExported field.name then
      match typeWithin types fuel field.type bench with
      | none => none
      | some (.error e, bench) => some (.error e, bench)
      | some (.ok value, bench) =>
        fieldsWithin types fuel fields (Dictionary.set field.name value members) bench
    else fieldsWithin types fuel fields members bench

end

mutual

/-- The number of nodes of a type expression, fields counted. -/
def weight : GoType → Nat
  | .named _ _ => 1
  | .pointer elem => weight elem + 1
  | .slice elem => weight elem + 1
  | .array _ elem => weight elem + 1
  | .chan elem => weight elem + 1
  | .map key value => weight key + weight value + 1
  | .struct fields => weightFields fields + 1
  | .interface => 1
  | .func _ => 1
  | .other _ => 1

/-- The nodes of a list of fields. -/
def weightFields : List (Field GoType) → Nat
  | [] => 1
  | ⟨_, type, _⟩ :: fields => weight type + weightFields fields + 1

end

/-- A number of steps that suffices: on every path each struct is begun at most once, and between
two of them no name is followed twice. -/
def steps (types : Declarations) (t : GoType) : Nat :=
  let nodes := types.foldr (fun entry total => weight entry.2 + 2 + total) (weight t + 2)
  4 * nodes * nodes

/-- The example of a type, with the bench after it. -/
def ofType (types : Declarations) (t : GoType) (bench : Bench) : Except ExampleError Json × Bench :=
  (typeWithin types (steps types t) t bench).getD (.error (.noExample t.spelling), bench)

/-- The examples of types in turn, up to the first that has none. -/
def ofTypes (types : Declarations) : List GoType → Bench → Except ExampleError (List Json) × Bench
  | [], bench => (.ok [], bench)
  | t :: ts, bench =>
    match ofType types t bench with
    | (.error e, bench) => (.error e, bench)
    | (.ok v, bench) =>
      match ofTypes types ts bench with
      | (.error e, bench) => (.error e, bench)
      | (.ok vs, bench) => (.ok (v :: vs), bench)

/-- The JSON texts of what a method takes and gives: the examples of all parameters but the first,
which is the request's context, as an array, and the example of the first result, null where there
is no result. -/
def ofMethod (types : Declarations) (params results : List GoType) (bench : Bench) :
    Except ExampleError (String × String) × Bench :=
  match ofTypes types (params.drop 1) bench with
  | (.error e, bench) => (.error e, bench)
  | (.ok inputs, bench) =>
    match results with
    | [] => (.ok ((Json.arr inputs).compact, Json.null.compact), bench)
    | result :: _ =>
      match ofType types result bench with
      | (.error e, bench) => (.error e, bench)
      | (.ok response, bench) => (.ok ((Json.arr inputs).compact, response.compact), bench)

end Example

end RollCall
