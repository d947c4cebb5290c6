import RollCall.Proofs.Example.Caching
import RollCall.Proofs.Example.Run
import RollCall.Proofs.Json.Printable
import RollCall.Proofs.Json.RoundTrip

/-!
# RollCall.Proofs.Example.MethodTexts — the texts of what a method takes and gives

`inTurn` builds the examples of types one after another on one bench and goes on after a failure. The
texts of a method are made of these examples for its parameters but the first and then its first
result. They are there when all of these are, and the first failure among them is the failure of the
method. Read as JSON the texts are the examples again: what is built from values that can be read back
can be read back.
-/

namespace RollCall.Example

/-! ## §A Examples in turn -/

/-- The examples of types one after another on one bench, with the failures among them. -/
def inTurn (types : Declarations) : List GoType → Bench → List (Except ExampleError Json)
  | [], _ => []
  | t :: ts, bench => (ofType types t bench).1 :: inTurn types ts (ofType types t bench).2

/-- The bench after the examples of types one after another. -/
def benchAfter (types : Declarations) (ts : List GoType) (bench : Bench) : Bench :=
  ts.foldl (fun bench t => (ofType types t bench).2) bench

/-- All values, or the first error. -/
def collected : List (Except ExampleError Json) → Except ExampleError (List Json)
  | [] => .ok []
  | .error e :: _ => .error e
  | .ok v :: results => (collected results).map (v :: ·)

theorem collected_map_ok (values : List Json) : collected (values.map .ok) = .ok values := by
  induction values with
  | nil => rfl
  | cons v values ih =>
      rw [List.map_cons, collected, ih]
      rfl

theorem collected_first_error (before : List Json) (e : ExampleError)
    (after : List (Except ExampleError Json)) :
    collected (before.map .ok ++ .error e :: after) = .error e := by
  induction before with
  | nil => rfl
  | cons v before ih =>
      rw [List.map_cons, List.cons_append, collected, ih]
      rfl

theorem ok_or_first_error (results : List (Except ExampleError Json)) :
    (∃ values : List Json, results = values.map .ok) ∨
      ∃ (before : List Json) (e : ExampleError) (after : List (Except ExampleError Json)),
        results = before.map .ok ++ .error e :: after := by
  induction results with
  | nil => exact Or.inl ⟨[], rfl⟩
  | cons result results ih =>
      cases result with
      | error e => exact Or.inr ⟨[], e, results, rfl⟩
      | ok v =>
          rcases ih with ⟨values, rfl⟩ | ⟨before, e, after, rfl⟩
          · exact Or.inl ⟨v :: values, rfl⟩
          · exact Or.inr ⟨v :: before, e, after, rfl⟩

theorem collected_eq_error_iff {results : List (Except ExampleError Json)} {e : ExampleError} :
    collected results = .error e ↔
      ∃ (before : List Json) (after : List (Except ExampleError Json)),
        results = before.map .ok ++ .error e :: after := by
  constructor
  · intro h
    rcases ok_or_first_error results with ⟨values, rfl⟩ | ⟨before, e', after, rfl⟩
    · cases h.symm.trans (collected_map_ok values)
    · cases h.symm.trans (collected_first_error before e' after)
      exact ⟨before, after, rfl⟩
  · rintro ⟨before, after, rfl⟩
    exact collected_first_error before e after

theorem length_collected {results : List (Except ExampleError Json)} {values : List Json}
    (h : collected results = .ok values) : values.length = results.length := by
  rcases ok_or_first_error results with ⟨others, rfl⟩ | ⟨before, e, after, rfl⟩
  · cases h.symm.trans (collected_map_ok others)
    rw [List.length_map]
  · cases h.symm.trans (collected_first_error before e after)

theorem collected_append (results others : List (Except ExampleError Json)) :
    collected (results ++ others) =
      (collected results).bind fun vs => (collected others).map (vs ++ ·) := by
  induction results with
  | nil =>
      show collected others = (collected others).map id
      cases collected others <;> rfl
  | cons result results ih =>
      cases result with
      | error e => rfl
      | ok v =>
          rw [List.cons_append, collected, ih, collected]
          cases collected results with
          | error e => rfl
          | ok vs => cases collected others <;> rfl

theorem inTurn_append (types : Declarations) (ts us : List GoType) (bench : Bench) :
    inTurn types (ts ++ us) bench =
      inTurn types ts bench ++ inTurn types us (benchAfter types ts bench) := by
  induction ts generalizing bench with
  | nil => rfl
  | cons t ts ih =>
      rw [List.cons_append, inTurn, ih]
      rfl

theorem length_inTurn (types : Declarations) (ts : List GoType) (bench : Bench) :
    (inTurn types ts bench).length = ts.length := by
  induction ts generalizing bench with
  | nil => rfl
  | cons t ts ih => rw [inTurn, List.length_cons, ih, List.length_cons]

/-- Building up to the first failure gives what building everything gives, and where nothing fails it
leaves the same bench. -/
theorem ofTypes_inTurn (types : Declarations) (ts : List GoType) (bench : Bench) :
    (ofTypes types ts bench).1 = collected (inTurn types ts bench) ∧
      ∀ vs, (ofTypes types ts bench).1 = .ok vs →
        (ofTypes types ts bench).2 = benchAfter types ts bench := by
  induction ts generalizing bench with
  | nil => exact ⟨rfl, fun _ _ => rfl⟩
  | cons t ts ih =>
      rw [ofTypes, inTurn, benchAfter, List.foldl_cons]
      rcases ofType types t bench with ⟨_ | v, middle⟩
      · refine ⟨rfl, ?_⟩
        intro vs h
        cases h
      obtain ⟨hresult, hbench⟩ := ih middle
      dsimp only
      rw [collected, ← hresult]
      generalize ofTypes types ts middle = others at hbench ⊢
      rcases others with ⟨_ | vs, after⟩
      · refine ⟨rfl, ?_⟩
        intro vs h
        cases h
      · refine ⟨rfl, ?_⟩
        intro _ _
        exact hbench vs rfl

/-- The types whose examples make the texts of a method: all parameters but the first, and the first
result. -/
def asked (params results : List GoType) : List GoType := params.drop 1 ++ results.take 1

/-- The texts of values, the first `n` of which are those of parameters and the next one that of a
result. -/
def textsOf (n : Nat) (values : List Json) : String × String :=
  ((Json.arr (values.take n)).compact, ((values.drop n).head?.getD .null).compact)

theorem textsOf_append (values replies : List Json) :
    textsOf values.length (values ++ replies) =
      ((Json.arr values).compact, (replies.head?.getD .null).compact) := by
  rw [textsOf, List.take_left, List.drop_left]

/-- The texts of a method are those of the examples in turn. -/
theorem ofMethod_inTurn (types : Declarations) (params results : List GoType) (bench : Bench) :
    (ofMethod types params results bench).1 =
      (collected (inTurn types (asked params results) bench)).map (textsOf (params.length - 1)) := by
  obtain ⟨hparams, hbench⟩ := ofTypes_inTurn types (params.drop 1) bench
  have hlength : ∀ vs, (ofTypes types (params.drop 1) bench).1 = .ok vs →
      vs.length = params.length - 1 := by
    intro vs hvs
    rw [length_collected (hparams.symm.trans hvs), length_inTurn, List.length_drop]
  rw [asked, inTurn_append, collected_append, ← hparams, ofMethod]
  generalize ofTypes types (params.drop 1) bench = inputs at hbench hlength ⊢
  rcases inputs with ⟨_ | vs, middle⟩
  · rfl
  have hmiddle : middle = benchAfter types (params.drop 1) bench := hbench vs rfl
  rw [← hlength vs rfl, ← hmiddle]
  cases results with
  | nil =>
      show _ = Except.ok (textsOf vs.length (vs ++ []))
      rw [textsOf_append]
      rfl
  | cons result results =>
      have hlast : inTurn types ((result :: results).take 1) middle =
          [(ofType types result middle).1] := rfl
      rw [hlast]
      dsimp only
      generalize ofType types result middle = answer
      rcases answer with ⟨_ | response, after⟩
      · rfl
      · show _ = Except.ok (textsOf vs.length (vs ++ [response]))
        rw [textsOf_append]
        rfl

/-! ## §B What is built can be read back -/

/-- Every registered value can be read back. -/
def LegibleRegistry (registry : Registry) : Prop :=
  ∀ key v, Dictionary.get? key registry = some v → Json.Legible v

/-- The members that a list of fields is to be added to can be read back as an object. -/
def Task.Legible : Task → Prop
  | .type _ => True
  | .fields _ members => Json.Legible (.obj members)

/-- A wrapping layer passes a value on, or repeats it in an array. -/
theorem layer_dress {types : Declarations} {t inner : GoType} {dress : Json → Json}
    (h : layer types t = .wrap inner dress) :
    dress = id ∨ ∃ n, dress = fun v => .arr (List.replicate n v) := by
  unfold layer at h
  split at h
  case h_1 =>
    cases h
    exact Or.inr ⟨1, rfl⟩
  case h_2 =>
    cases h
    exact Or.inl rfl
  case h_3 n _ =>
    cases h
    exact Or.inr ⟨n, rfl⟩
  case h_5 =>
    split at h
    · cases h
      exact Or.inl rfl
    · cases h
  case h_7 =>
    split at h
    case h_3 =>
      cases h
      exact Or.inl rfl
    all_goals cases h
  all_goals cases h

theorem legible_dress {types : Declarations} {t inner : GoType} {dress : Json → Json}
    (h : layer types t = .wrap inner dress) {v : Json} (hv : Json.Legible v) :
    Json.Legible (dress v) := by
  rcases layer_dress h with rfl | ⟨n, rfl⟩
  · exact hv
  · refine .arr fun w hw => ?_
    rw [List.eq_of_mem_replicate hw]
    exact hv

/-- Only the empty object is known at once. -/
theorem layer_leaf_ok {types : Declarations} {t : GoType} {v : Json}
    (h : layer types t = .leaf (.ok v)) : v = Json.empty := by
  unfold layer at h
  split at h
  case h_5 => split at h <;> cases h
  case h_6 =>
    cases h
    rfl
  case h_7 =>
    split at h
    case h_1 => split at h <;> cases h
    all_goals cases h
  all_goals cases h

theorem legible_set {members : Dictionary Json} (h : Json.Legible (.obj members)) (name : String)
    {v : Json} (hv : Json.Legible v) : Json.Legible (.obj (Dictionary.set name v members)) := by
  cases h with
  | obj hascending hmembers =>
      refine .obj (hascending.set name v) ?_
      rintro ⟨k, w⟩ hw
      have hget := (Dictionary.get?_eq_some_iff (hascending.set name v).nodup k w).mpr hw
      rw [Dictionary.get?_set] at hget
      split at hget
      · cases hget
        exact hv
      · exact hmembers (k, w) (Dictionary.mem_of_get? hget)

theorem legibleRegistry_set {registry : Registry} (h : LegibleRegistry registry) (key : String)
    {v : Json} (hv : Json.Legible v) : LegibleRegistry (Dictionary.set key v registry) := by
  intro other w hw
  rw [Dictionary.get?_set] at hw
  split at hw
  · cases hw
    exact hv
  · exact h other w hw

/-- The values that every registry starts from can be read back. -/
theorem legibleRegistry_seeded : LegibleRegistry Registry.seeded := by
  intro key v hv
  rw [Registry.seeded, Dictionary.get?_ofList] at hv
  have hmem := List.mem_reverse.mp (Dictionary.mem_of_get? hv)
  simp only [List.mem_cons, Prod.mk.injEq, List.not_mem_nil, or_false] at hmem
  rcases hmem with ⟨-, rfl⟩ | ⟨-, rfl⟩ | ⟨-, rfl⟩ | ⟨-, rfl⟩ | ⟨-, rfl⟩ | ⟨-, rfl⟩ | ⟨-, rfl⟩ |
    ⟨-, rfl⟩ | ⟨-, rfl⟩ | ⟨-, rfl⟩
  · exact .str _
  · exact .str _
  · exact .int (by decide) (by decide)
  · exact .int (by decide) (by decide)
  · exact .str _
  · exact .bool _
  · exact .int (by decide) (by decide)
  · exact .int (by decide) (by decide)
  · exact .float rfl
  · exact .obj Dictionary.ascending_nil nofun

/-- From values that can be read back a run makes values that can be read back, and registers no
others. -/
theorem Run.legible {types : Declarations} {task : Task} {bench after : Bench}
    {result : Except ExampleError Json} (h : Run types task bench result after)
    (hregistry : LegibleRegistry bench.registry) (htask : task.Legible) :
    LegibleRegistry after.registry ∧ ∀ v, result = .ok v → Json.Legible v := by
  induction h with
  | registered hget =>
      refine ⟨hregistry, ?_⟩
      rintro v hv
      cases hv
      exact hregistry _ _ hget
  | leaf _ hlayer =>
      refine ⟨hregistry, ?_⟩
      rintro v rfl
      rw [layer_leaf_ok hlayer]
      exact .obj Dictionary.ascending_nil nofun
  | @wrap t inner dress bench after result _ hlayer _ ih =>
      obtain ⟨hafter, hresult⟩ := ih hregistry trivial
      refine ⟨hafter, ?_⟩
      intro v hv
      cases result with
      | error e => cases hv
      | ok w =>
          cases hv
          exact legible_dress hlayer (hresult w rfl)
  | refused _ _ _ => exact ⟨hregistry, nofun⟩
  | @struct t fields bench after result _ _ _ _ ih =>
      obtain ⟨hafter, hresult⟩ := ih hregistry (.obj Dictionary.ascending_nil nofun)
      refine ⟨?_, hresult⟩
      rcases closed_registry t result after with hsame | ⟨_, value, -, hvalue, hset⟩
      · rw [hsame]
        exact hafter
      · rw [hset]
        exact legibleRegistry_set hafter _ (hresult value hvalue)
  | noFields =>
      refine ⟨hregistry, ?_⟩
      intro v hv
      cases hv
      exact htask
  | hiddenField _ _ ih => exact ih hregistry htask
  | failedField _ _ ih => exact ⟨(ih hregistry trivial).1, nofun⟩
  | field _ _ _ ihfirst ihrest =>
      obtain ⟨hmiddle, hvalue⟩ := ihfirst hregistry trivial
      exact ihrest hmiddle (legible_set htask _ (hvalue _ rfl))

/-- All examples in turn can be read back. -/
theorem legible_inTurn {types : Declarations} (hcircle : NoCircle types) (ts : List GoType)
    (bench : Bench) (hregistry : LegibleRegistry bench.registry) {v : Json}
    (hv : .ok v ∈ inTurn types ts bench) : Json.Legible v := by
  induction ts generalizing bench with
  | nil => cases hv
  | cons t ts ih =>
      obtain ⟨hafter, hresult⟩ := (run_ofType hcircle t bench).legible hregistry trivial
      rcases List.mem_cons.mp hv with heq | hmem
      · exact hresult v heq.symm
      · exact ih _ hafter hmem

/-! ## §C The texts of a method -/

/-- Let the examples of all parameters but the first, and then of the first result, be built in turn
on one bench. The texts of a method fail exactly if one of these fails, with the first error among
them. Otherwise they hold no character below U+0020, whatever the values are, and where the registered
values can be read back, they read as the array of the parameters' examples and as the result's
example, null where there is no result. -/
theorem ofMethod_texts (types : Declarations) (registry : Registry) (params results : List GoType)
    (hcircle : NoCircle types) :
    (∀ e, (ofMethod types params results (.fresh registry)).1 = .error e ↔
        ∃ (before : List Json) (after : List (Except ExampleError Json)),
          inTurn types (asked params results) (.fresh registry) =
            before.map .ok ++ .error e :: after) ∧
      ∀ values replies : List Json, values.length = params.length - 1 →
        inTurn types (asked params results) (.fresh registry) = (values ++ replies).map .ok →
          ∃ inputs response,
            (ofMethod types params results (.fresh registry)).1 = .ok (inputs, response) ∧
              Printable inputs.toList ∧ Printable response.toList ∧
                (LegibleRegistry registry →
                  (∀ depth, (Json.arr values).nesting ≤ depth →
                    Json.readNested? depth inputs = some (.arr (values.map Json.reread))) ∧
                  ∀ depth, (replies.head?.getD .null).nesting ≤ depth →
                    Json.readNested? depth response = some (replies.head?.getD .null).reread) := by
  have htexts := ofMethod_inTurn types params results (.fresh registry)
  constructor
  · intro e
    rw [htexts, ← collected_eq_error_iff]
    cases collected (inTurn types (asked params results) (.fresh registry)) with
    | error e' =>
        constructor
        · intro h
          cases h
          rfl
        · intro h
          cases h
          rfl
    | ok vs => exact iff_of_false nofun nofun
  · intro values replies hlength hall
    have hlegible : LegibleRegistry registry → ∀ v ∈ values ++ replies, Json.Legible v := by
      intro hregistry v hv
      apply legible_inTurn hcircle (asked params results) (.fresh registry) hregistry
      rw [hall]
      exact List.mem_map_of_mem hv
    refine ⟨_, _, ?_, Json.printable_compact (.arr values),
      Json.printable_compact (replies.head?.getD .null), fun hregistry => ⟨?_, ?_⟩⟩
    · rw [htexts, hall, collected_map_ok, ← hlength]
      show Except.ok (textsOf values.length (values ++ replies)) = _
      rw [textsOf_append]
    · intro depth hdepth
      rw [← Json.reread_arr]
      apply Json.readNested?_compact _ hdepth
      exact .arr fun v hv => hlegible hregistry v (List.mem_append_left _ hv)
    · intro depth hdepth
      apply Json.readNested?_compact _ hdepth
      cases replies with
      | nil => exact .null
      | cons reply _ => exact hlegible hregistry reply (List.mem_append_right _ List.mem_cons_self)

/-- The values that every registry starts from, with a string of quotes, a backslash and control
characters. -/
def unruly : Registry := Dictionary.set "string" (.str "\"a\\b\"\n\t\x01") Registry.seeded

/-- Their texts read as the values. -/
theorem ofMethod_texts_unruly :
    ∃ inputs response,
      (ofMethod sampleTypes [.plain "Context", .plain "float64", .slice (.plain "Leaf")]
          [.pointer (.plain "Leaf"), .plain "error"] (.fresh unruly)).1 = .ok (inputs, response) ∧
        Printable inputs.toList ∧ Printable response.toList ∧
          Json.read? inputs = some (.arr [.float Registry.sampleFloat,
            .arr [.obj [("Name", .str "\"a\\b\"\n\t\x01")]]]) ∧
            Json.read? response = some (.obj [("Name", .str "\"a\\b\"\n\t\x01")]) := by
  obtain ⟨-, hall⟩ := ofMethod_texts sampleTypes unruly
    [.plain "Context", .plain "float64", .slice (.plain "Leaf")]
    [.pointer (.plain "Leaf"), .plain "error"] noCircle_sampleTypes
  obtain ⟨inputs, response, hok, hinputs, hresponse, hread⟩ := hall
    [.float Registry.sampleFloat, .arr [.obj [("Name", .str "\"a\\b\"\n\t\x01")]]]
    [.obj [("Name", .str "\"a\\b\"\n\t\x01")]] rfl rfl
  obtain ⟨hreadInputs, hreadResponse⟩ := hread
    (legibleRegistry_set legibleRegistry_seeded _ (.str _))
  refine ⟨inputs, response, hok, hinputs, hresponse, ?_, ?_⟩
  · rw [Json.read?_eq_readNested?]
    exact hreadInputs Json.maxDepth (by decide)
  · rw [Json.read?_eq_readNested?]
    exact hreadResponse Json.maxDepth (by decide)

end RollCall.Example
