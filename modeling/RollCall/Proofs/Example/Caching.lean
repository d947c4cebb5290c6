import Mathlib.Data.List.Nodup
import RollCall.Proofs.Example.Uncached

/-!
# RollCall.Proofs.Example.Caching — registering does not show

The value of a declared struct is registered as soon as it is built, also while other structs are
begun and also where the whole then fails, and a registered value is taken without looking at the
structs that are begun. It could therefore replace an error, because without it the type might come
back to one of those structs.

It never does. A registered value can be derived, so its type is no part of itself. Every struct that
is begun has the type among its parts. If such a struct were among the parts of the type in turn, it
would be a part of itself and also have an example. Types enter only by their spelling, so this takes
spellings that tell the types apart.
-/

namespace RollCall.Example

open Relation (ReflTransGen TransGen)

/-! ## §A The types that occur -/

/-- A type occurs in the queries or in the declarations: it is one of these types or stands within
one of them. -/
def Occurs (types : Declarations) (queried : List GoType) (t : GoType) : Prop :=
  ∃ root, (root ∈ queried ∨ ∃ name, Dictionary.get? name types = some root) ∧
    ReflTransGen Holds root t

/-- No two types that occur are spelled alike. -/
def Unambiguous (types : Declarations) (queried : List GoType) : Prop :=
  ∀ t u, Occurs types queried t → Occurs types queried u → t.spelling = u.spelling → t = u

section Occurring

variable {types : Declarations} {queried : List GoType}

theorem occurs_of_queried {t : GoType} (h : t ∈ queried) : Occurs types queried t :=
  ⟨t, Or.inl h, .refl⟩

theorem occurs_of_declared {name : String} {t : GoType} (h : Dictionary.get? name types = some t) :
    Occurs types queried t :=
  ⟨t, Or.inr ⟨name, h⟩, .refl⟩

theorem Occurs.holds {t u : GoType} (h : Occurs types queried t) (hholds : Holds t u) :
    Occurs types queried u := by
  obtain ⟨root, hroot, hreach⟩ := h
  exact ⟨root, hroot, hreach.tail hholds⟩

/-- Only types that occur are met. -/
theorem Occurs.part {registry : Registry} {t u : GoType} (h : Occurs types queried t)
    (hpart : Part types registry t u) : Occurs types queried u := by
  cases hpart with
  | wrap _ hlayer =>
      rcases layer_wrap hlayer with hholds | ⟨name, -, hget, -⟩
      · exact h.holds hholds
      · exact occurs_of_declared hget
  | field _ hlayer hf =>
      rcases layer_struct hlayer with rfl | ⟨name, -, hget⟩
      · exact h.holds (.field hf)
      · exact (occurs_of_declared hget).holds (.field hf)

end Occurring

/-! ## §B Registries that grew -/

/-- **`Grown types queried initial registry`** — the registry has what it had in the beginning, and
every type that occurs has in it only a value that can be derived from the beginning. -/
structure Grown (types : Declarations) (queried : List GoType) (initial registry : Registry) :
    Prop where
  keeps : ∀ key v, Dictionary.get? key initial = some v → Dictionary.get? key registry = some v
  derived : ∀ t v, Occurs types queried t → Dictionary.get? t.spelling registry = some v →
    Exemplifies types initial t v

/-- Every struct that is begun has the type among its parts. -/
def Inside (types : Declarations) (queried : List GoType) (initial : Registry)
    (unfinished : List String) (t : GoType) : Prop :=
  ∀ key ∈ unfinished, ∃ u, Occurs types queried u ∧ u.spelling = key ∧
    TransGen (Part types initial) u t

section Growing

variable {types : Declarations} {queried : List GoType} {initial registry : Registry}
  {unfinished : List String} {t : GoType}

theorem grown_initial (types : Declarations) (queried : List GoType) (initial : Registry) :
    Grown types queried initial initial :=
  ⟨fun _ _ h => h, fun _ _ _ h => .registered h⟩

theorem Grown.get?_initial (h : Grown types queried initial registry) {key : String}
    (hnone : Dictionary.get? key registry = none) : Dictionary.get? key initial = none := by
  cases hget : Dictionary.get? key initial with
  | none => rfl
  | some v => cases hnone.symm.trans (h.keeps key v hget)

/-- A derived value can be registered. -/
theorem Grown.set (hspelling : Unambiguous types queried) (h : Grown types queried initial registry)
    (ht : Occurs types queried t) (hnone : Dictionary.get? t.spelling initial = none) {v : Json}
    (hv : Exemplifies types initial t v) :
    Grown types queried initial (Dictionary.set t.spelling v registry) := by
  constructor
  · intro key w hw
    have hne : t.spelling ≠ key := by
      rintro rfl
      cases hnone.symm.trans hw
    rw [Dictionary.get?_set_ne hne]
    exact h.keeps key w hw
  · intro u w hu hw
    by_cases heq : t.spelling = u.spelling
    · cases hspelling t u ht hu heq
      rw [Dictionary.get?_set_self] at hw
      cases hw
      exact hv
    · rw [Dictionary.get?_set_ne heq] at hw
      exact h.derived u w hu hw

theorem inside_nil (t : GoType) : Inside types queried initial [] t :=
  fun _ hkey => absurd hkey List.not_mem_nil

theorem Inside.part {u : GoType} (h : Inside types queried initial unfinished t)
    (hpart : Part types initial t u) : Inside types queried initial unfinished u := by
  intro key hkey
  obtain ⟨s, hs, hkeys, hreach⟩ := h key hkey
  exact ⟨s, hs, hkeys, hreach.tail hpart⟩

theorem Inside.begin {u : GoType} (h : Inside types queried initial unfinished t)
    (ht : Occurs types queried t) (hpart : Part types initial t u) :
    Inside types queried initial (t.spelling :: unfinished) u := by
  intro key hkey
  rcases List.mem_cons.mp hkey with rfl | hkey
  · exact ⟨t, ht, rfl, .single hpart⟩
  · exact h.part hpart key hkey

/-- No struct that is begun is among the parts of a type that has an example. -/
theorem Inside.clear (hspelling : Unambiguous types queried)
    (h : Inside types queried initial unfinished t) (ht : Occurs types queried t) {v : Json}
    (hv : Exemplifies types initial t v) :
    ∀ u, ReflTransGen (Part types initial) t u → u.spelling ∉ unfinished := by
  intro u hreach hin
  obtain ⟨s, hs, hkey, hdown⟩ := h u.spelling hin
  have hu : Occurs types queried u :=
    Uncached.closed_of_reaches (fun _ _ hocc hpart => hocc.part hpart) ht hreach
  cases hspelling s u hs hu hkey
  obtain ⟨w, hw⟩ := hv.part hreach
  exact hw.not_circular (TransGen.trans_left hdown hreach)

/-- A registered value is the one that would be built. -/
theorem Grown.typeWithin_eq (hspelling : Unambiguous types queried)
    (h : Grown types queried initial registry) (ht : Occurs types queried t)
    (hinside : Inside types queried initial unfinished t) {v : Json}
    (hget : Dictionary.get? t.spelling registry = some v) {fuel : Nat}
    {result : Except ExampleError Json}
    (hresult : Uncached.typeWithin types initial fuel t unfinished = some result) :
    result = .ok v := by
  have hv := h.derived t v ht hget
  exact Uncached.typeWithin_exemplifies (fun _ _ hocc hpart => hocc.part hpart) hspelling hv ht
    (hinside.clear hspelling ht hv) hresult

end Growing

/-! ## §C Both recursions agree -/

/-- **`Agreed types queried initial answer unfinished other`** — the answer is the other one, the
registry has grown, and the structs begun are those begun before. -/
structure Agreed (types : Declarations) (queried : List GoType) (initial : Registry) {α : Type}
    (answer : Except ExampleError α × Bench) (unfinished : List String)
    (other : Except ExampleError α) : Prop where
  result : answer.1 = other
  grown : Grown types queried initial answer.2.registry
  finished : answer.2.unfinished = unfinished

/-- **`Agreeing types queried initial fuel`** — wherever both recursions have an answer, they agree. -/
structure Agreeing (types : Declarations) (queried : List GoType) (initial : Registry) (fuel : Nat) :
    Prop where
  ofType : ∀ t bench answer m other, Grown types queried initial bench.registry →
    Occurs types queried t → Inside types queried initial bench.unfinished t →
      typeWithin types fuel t bench = some answer →
        Uncached.typeWithin types initial m t bench.unfinished = some other →
          Agreed types queried initial answer bench.unfinished other
  ofStruct : ∀ t fields bench answer m other, Grown types queried initial bench.registry →
    Occurs types queried t → Inside types queried initial bench.unfinished t →
      Dictionary.get? t.spelling initial = none → layer types t = .struct fields →
        structWithin types fuel t.spelling fields bench = some answer →
          Uncached.structWithin types initial m t.spelling fields bench.unfinished = some other →
            Agreed types queried initial answer bench.unfinished other
  ofFields : ∀ fields members bench answer m other, Grown types queried initial bench.registry →
    (∀ f ∈ fields, isExported f.name = true → Occurs types queried f.type ∧
      Inside types queried initial bench.unfinished f.type) →
        fieldsWithin types fuel fields members bench = some answer →
          Uncached.fieldsWithin types initial m fields members bench.unfinished = some other →
            Agreed types queried initial answer bench.unfinished other

section Simulation

variable {types : Declarations} {queried : List GoType} {initial : Registry} {fuel : Nat}

theorem Agreeing.ofType_succ (hspelling : Unambiguous types queried)
    (h : Agreeing types queried initial fuel) (t : GoType) (bench : Bench)
    (answer : Except ExampleError Json × Bench) (m : Nat) (other : Except ExampleError Json)
    (hgrown : Grown types queried initial bench.registry) (ht : Occurs types queried t)
    (hinside : Inside types queried initial bench.unfinished t)
    (hanswer : typeWithin types (fuel + 1) t bench = some answer)
    (hother : Uncached.typeWithin types initial m t bench.unfinished = some other) :
    Agreed types queried initial answer bench.unfinished other := by
  rw [typeWithin_succ] at hanswer
  cases hget : Dictionary.get? t.spelling bench.registry with
  | some value =>
      rw [hget] at hanswer
      cases hanswer
      -- a registered value is taken as it is, the other recursion builds it
      exact ⟨(hgrown.typeWithin_eq hspelling ht hinside hget hother).symm, hgrown, rfl⟩
  | none =>
      have hinitial := hgrown.get?_initial hget
      have hbuilt := (Uncached.built types initial m).ofType t bench.unfinished
      rw [hget] at hanswer
      cases m with
      | zero => cases hother
      | succ m =>
          rw [hother] at hbuilt
          rw [Uncached.typeWithin, hinitial] at hother
          cases hlayer : layer types t with
          | leaf result =>
              rw [hlayer] at hanswer hother
              cases hanswer
              cases hother
              exact ⟨rfl, hgrown, rfl⟩
          | wrap inner dress =>
              rw [hlayer] at hanswer hother
              obtain ⟨before, hbefore, rfl⟩ := Answer.map_eq_some hanswer
              obtain ⟨r, hr, rfl⟩ := Option.map_eq_some_iff.mp hother
              have hpart : Part types initial t inner := .wrap hinitial hlayer
              obtain ⟨rfl, hgrown', hfinished⟩ := h.ofType inner bench before m r hgrown
                (ht.part hpart) (hinside.part hpart) hbefore hr
              exact ⟨rfl, hgrown', hfinished⟩
          | struct fields =>
              rw [hlayer] at hanswer hother
              dsimp only at hanswer hother
              obtain ⟨before, hstruct⟩ := exists_of_keep hanswer
              obtain ⟨hresult, hgrown', hfinished⟩ := h.ofStruct t fields bench before m other
                hgrown ht hinside hinitial hlayer hstruct hother
              rw [hstruct] at hanswer
              rcases keep_some t before.1 before.2 with hkeep | ⟨value, hvalue, hkeep⟩
              · cases hkeep.symm.trans hanswer
                exact ⟨hresult, hgrown', hfinished⟩
              · cases hkeep.symm.trans hanswer
                -- what is registered here was built by the other recursion as well
                have hv : Exemplifies types initial t value :=
                  hbuilt value (by rw [← hresult, hvalue])
                exact ⟨hresult, hgrown'.set hspelling ht hinitial hv, hfinished⟩

theorem Agreeing.ofStruct_succ (h : Agreeing types queried initial fuel) (t : GoType)
    (fields : List (Field GoType)) (bench : Bench) (answer : Except ExampleError Json × Bench)
    (m : Nat) (other : Except ExampleError Json)
    (hgrown : Grown types queried initial bench.registry) (ht : Occurs types queried t)
    (hinside : Inside types queried initial bench.unfinished t)
    (hinitial : Dictionary.get? t.spelling initial = none) (hlayer : layer types t = .struct fields)
    (hanswer : structWithin types (fuel + 1) t.spelling fields bench = some answer)
    (hother : Uncached.structWithin types initial m t.spelling fields bench.unfinished =
      some other) : Agreed types queried initial answer bench.unfinished other := by
  cases m with
  | zero => cases hother
  | succ m =>
      rw [structWithin] at hanswer
      rw [Uncached.structWithin] at hother
      by_cases hin : bench.unfinished.contains t.spelling = true
      · rw [if_pos hin] at hanswer hother
        cases hanswer
        cases hother
        exact ⟨rfl, hgrown, rfl⟩
      · rw [if_neg hin] at hanswer hother
        obtain ⟨r, hr, rfl⟩ := Option.map_eq_some_iff.mp hother
        have hparts : ∀ f ∈ fields, isExported f.name = true → Occurs types queried f.type ∧
            Inside types queried initial (t.spelling :: bench.unfinished) f.type := by
          intro f hf hexported
          have hpart : Part types initial t f.type := .field hinitial hlayer hf hexported
          exact ⟨ht.part hpart, hinside.begin ht hpart⟩
        cases hfields : fieldsWithin types fuel fields []
            { bench with unfinished := t.spelling :: bench.unfinished } with
        | none =>
            rw [hfields] at hanswer
            cases hanswer
        | some before =>
            obtain ⟨rfl, hgrown', hfinished⟩ :=
              h.ofFields fields [] ⟨bench.registry, t.spelling :: bench.unfinished⟩ before m r hgrown
                hparts hfields hr
            rw [hfields] at hanswer
            cases hanswer
            exact ⟨rfl, hgrown', congrArg List.tail hfinished⟩

theorem Agreeing.ofFields_succ (h : Agreeing types queried initial fuel)
    (fields : List (Field GoType)) (members : Dictionary Json) (bench : Bench)
    (answer : Except ExampleError (Dictionary Json) × Bench) (m : Nat)
    (other : Except ExampleError (Dictionary Json))
    (hgrown : Grown types queried initial bench.registry)
    (hparts : ∀ f ∈ fields, isExported f.name = true → Occurs types queried f.type ∧
      Inside types queried initial bench.unfinished f.type)
    (hanswer : fieldsWithin types (fuel + 1) fields members bench = some answer)
    (hother : Uncached.fieldsWithin types initial m fields members bench.unfinished =
      some other) : Agreed types queried initial answer bench.unfinished other := by
  cases m with
  | zero => cases hother
  | succ m =>
      cases fields with
      | nil =>
          cases hanswer
          cases hother
          exact ⟨rfl, hgrown, rfl⟩
      | cons field fields =>
          rw [fieldsWithin] at hanswer
          rw [Uncached.fieldsWithin] at hother
          have hrest := fun f hf => hparts f (List.mem_cons_of_mem _ hf)
          by_cases hexported : isExported field.name = true
          · rw [if_pos hexported] at hanswer hother
            obtain ⟨ht, hinside⟩ := hparts field List.mem_cons_self hexported
            cases hfirst : typeWithin types fuel field.type bench with
            | none =>
                rw [hfirst] at hanswer
                cases hanswer
            | some before =>
                cases hfirst' : Uncached.typeWithin types initial m field.type bench.unfinished with
                | none =>
                    rw [hfirst'] at hother
                    cases hother
                | some r =>
                    obtain ⟨result, registry, unfinished⟩ := before
                    obtain ⟨rfl, hgrown', rfl⟩ :=
                      h.ofType field.type bench _ m r hgrown ht hinside hfirst hfirst'
                    rw [hfirst] at hanswer
                    rw [hfirst'] at hother
                    cases result with
                    | error e =>
                        cases hanswer
                        cases hother
                        exact ⟨rfl, hgrown', rfl⟩
                    | ok value =>
                        exact h.ofFields fields _ ⟨registry, _⟩ answer m other hgrown' hrest hanswer
                          hother
          · rw [if_neg hexported] at hanswer hother
            exact h.ofFields fields members bench answer m other hgrown hrest hanswer hother

theorem agreeing (hspelling : Unambiguous types queried) (initial : Registry) (fuel : Nat) :
    Agreeing types queried initial fuel := by
  induction fuel with
  | zero => exact ⟨nofun, nofun, nofun⟩
  | succ fuel ih => exact ⟨ih.ofType_succ hspelling, ih.ofStruct_succ, ih.ofFields_succ⟩

end Simulation

/-! ## §D One query after the other -/

/-- What can be asked for: the example of a type, or the texts of a method. -/
inductive Query where
  | single (t : GoType)
  | method (params results : List GoType)

/-- What is answered to a query. -/
inductive Reply where
  | single (result : Except ExampleError Json)
  | method (result : Except ExampleError (String × String))

/-- A query, on the bench of the query before it or on a new one with the same registry. -/
structure Call where
  renewed : Bool
  query : Query

/-- The types whose examples a query asks for. -/
def Query.types : Query → List GoType
  | .single t => [t]
  | .method params results => params.drop 1 ++ results.take 1

/-- The reply to a query, with the bench after it. -/
def Query.ask (types : Declarations) : Query → Bench → Reply × Bench
  | .single t, bench => (ofType types t bench).map .single id
  | .method params results, bench => (ofMethod types params results bench).map .method id

/-- The reply to a query where nothing is registered. -/
def Query.askUncached (types : Declarations) (registry : Registry) : Query → Reply
  | .single t => .single (Uncached.ofType types registry t)
  | .method params results => .method (Uncached.ofMethod types registry params results)

/-- The replies to calls in turn, with the bench after them. -/
def askAll (types : Declarations) : List Call → Bench → List Reply × Bench
  | [], bench => ([], bench)
  | call :: calls, bench =>
    let (reply, bench) :=
      call.query.ask types (if call.renewed then .fresh bench.registry else bench)
    let (replies, bench) := askAll types calls bench
    (reply :: replies, bench)

section Replies

variable {types : Declarations} {queried : List GoType} {initial registry : Registry}

theorem ofType_uncached (hcircle : NoCircle types) (hspelling : Unambiguous types queried)
    (hgrown : Grown types queried initial registry) {t : GoType} (ht : Occurs types queried t) :
    ∃ registry', ofType types t (.fresh registry) =
        (Uncached.ofType types initial t, .fresh registry') ∧
      Grown types queried initial registry' := by
  obtain ⟨result, registry', hanswer⟩ := (ending types (steps types t)).ofType t (.fresh registry)
    (typeEnds_steps hcircle t [])
  have hagreed := (agreeing hspelling initial (steps types t)).ofType t (.fresh registry) _ _ _
    hgrown ht (inside_nil t) hanswer (Uncached.typeWithin_steps hcircle initial t)
  obtain ⟨rfl, hgrown', -⟩ := hagreed
  exact ⟨registry', by rw [ofType, hanswer]; rfl, hgrown'⟩

theorem ofTypes_uncached (hcircle : NoCircle types) (hspelling : Unambiguous types queried)
    (hgrown : Grown types queried initial registry) {ts : List GoType}
    (hts : ∀ t ∈ ts, Occurs types queried t) :
    ∃ registry', ofTypes types ts (.fresh registry) =
        (ts.mapM (Uncached.ofType types initial), .fresh registry') ∧
      Grown types queried initial registry' := by
  induction ts generalizing registry with
  | nil => exact ⟨registry, rfl, hgrown⟩
  | cons t ts ih =>
      obtain ⟨middle, hfirst, hmiddle⟩ :=
        ofType_uncached hcircle hspelling hgrown (hts t List.mem_cons_self)
      rw [ofTypes, hfirst, List.mapM_cons]
      cases Uncached.ofType types initial t with
      | error e => exact ⟨middle, rfl, hmiddle⟩
      | ok v =>
          obtain ⟨last, hrest, hlast⟩ := ih hmiddle fun u hu => hts u (List.mem_cons_of_mem _ hu)
          refine ⟨last, ?_, hlast⟩
          dsimp only
          rw [hrest]
          cases ts.mapM (Uncached.ofType types initial) <;> rfl

theorem ofMethod_uncached (hcircle : NoCircle types) (hspelling : Unambiguous types queried)
    (hgrown : Grown types queried initial registry) {params results : List GoType}
    (hparams : ∀ t ∈ params.drop 1, Occurs types queried t)
    (hresults : ∀ t ∈ results.take 1, Occurs types queried t) :
    ∃ registry', ofMethod types params results (.fresh registry) =
        (Uncached.ofMethod types initial params results, .fresh registry') ∧
      Grown types queried initial registry' := by
  obtain ⟨middle, hinputs, hmiddle⟩ := ofTypes_uncached hcircle hspelling hgrown hparams
  rw [ofMethod, hinputs, Uncached.ofMethod]
  cases (params.drop 1).mapM (Uncached.ofType types initial) with
  | error e => exact ⟨middle, rfl, hmiddle⟩
  | ok inputs =>
      cases results with
      | nil => exact ⟨middle, rfl, hmiddle⟩
      | cons result others =>
          obtain ⟨last, hresult, hlast⟩ :=
            ofType_uncached hcircle hspelling hmiddle (hresults result List.mem_cons_self)
          refine ⟨last, ?_, hlast⟩
          dsimp only
          rw [hresult]
          cases Uncached.ofType types initial result <;> rfl

theorem ask_uncached (hcircle : NoCircle types) (hspelling : Unambiguous types queried)
    (hgrown : Grown types queried initial registry) {query : Query}
    (hquery : ∀ t ∈ query.types, Occurs types queried t) :
    ∃ registry', query.ask types (.fresh registry) =
        (query.askUncached types initial, .fresh registry') ∧
      Grown types queried initial registry' := by
  cases query with
  | single t =>
      obtain ⟨last, hanswer, hlast⟩ :=
        ofType_uncached hcircle hspelling hgrown (hquery t (List.mem_singleton_self t))
      exact ⟨last, by rw [Query.ask, hanswer]; rfl, hlast⟩
  | method params results =>
      obtain ⟨last, hanswer, hlast⟩ := ofMethod_uncached hcircle hspelling hgrown
        (fun t ht => hquery t (List.mem_append_left _ ht))
        (fun t ht => hquery t (List.mem_append_right _ ht))
      exact ⟨last, by rw [Query.ask, hanswer]; rfl, hlast⟩

theorem askAll_uncached (hcircle : NoCircle types) (hspelling : Unambiguous types queried)
    (hgrown : Grown types queried initial registry) {calls : List Call}
    (hcalls : ∀ call ∈ calls, ∀ t ∈ call.query.types, Occurs types queried t) :
    (askAll types calls (.fresh registry)).1 =
      calls.map fun call => call.query.askUncached types initial := by
  induction calls generalizing registry with
  | nil => rfl
  | cons call calls ih =>
      obtain ⟨next, hanswer, hnext⟩ :=
        ask_uncached hcircle hspelling hgrown (hcalls call List.mem_cons_self)
      have hbench : (if call.renewed then Bench.fresh (Bench.fresh registry).registry
          else Bench.fresh registry) = Bench.fresh registry := ite_self _
      rw [askAll, hbench, hanswer, List.map_cons]
      exact congrArg _ (ih hnext fun c hc => hcalls c (List.mem_cons_of_mem _ hc))

end Replies

/-- The types whose examples some calls ask for. -/
def queriedTypes (calls : List Call) : List GoType := calls.flatMap fun call => call.query.types

/-- Where the declared names have no circle without a struct and no two types that occur are spelled
alike, every call is answered as if nothing had ever been registered, whatever the calls before it
registered, and building the answer that way ends. The replies are therefore those of the same calls
in any other order. -/
theorem replies_uncached (types : Declarations) (registry : Registry) (calls : List Call)
    (hcircle : NoCircle types) (hspelling : Unambiguous types (queriedTypes calls)) :
    (askAll types calls (.fresh registry)).1 =
        calls.map (fun call => call.query.askUncached types registry) ∧
      (∀ t ∈ queriedTypes calls, Uncached.typeWithin types registry (steps types t) t [] ≠ none) ∧
      ∀ others : List Call, others.Perm calls →
        (others.zip (askAll types others (.fresh registry)).1).Perm
          (calls.zip (askAll types calls (.fresh registry)).1) := by
  -- the types that occur are the same in any order of the calls
  have hreplies : ∀ others : List Call, others.Perm calls →
      (askAll types others (.fresh registry)).1 =
        others.map fun call => call.query.askUncached types registry := by
    intro others hperm
    refine askAll_uncached hcircle hspelling (grown_initial types _ registry) ?_
    intro call hcall t ht
    exact occurs_of_queried (List.mem_flatMap.mpr ⟨call, hperm.mem_iff.mp hcall, ht⟩)
  refine ⟨hreplies calls (List.Perm.refl calls), ?_, ?_⟩
  · intro t _
    rw [Uncached.typeWithin_steps hcircle registry t]
    exact Option.some_ne_none _
  · intro others hperm
    rw [hreplies others hperm, hreplies calls (List.Perm.refl calls), ← List.map_prod_left_eq_zip,
      ← List.map_prod_left_eq_zip]
    exact hperm.map _

/-- Types are told apart by their spellings if a list of them is that is closed under parts. -/
theorem unambiguous_of_nodup {types : Declarations} {queried : List GoType} (listed : List GoType)
    (hqueried : ∀ t ∈ queried, t ∈ listed)
    (hdeclared : ∀ name t, Dictionary.get? name types = some t → t ∈ listed)
    (hholds : ∀ t u, t ∈ listed → Holds t u → u ∈ listed)
    (hnodup : (listed.map GoType.spelling).Nodup) : Unambiguous types queried := by
  have hlisted : ∀ t, Occurs types queried t → t ∈ listed := by
    rintro t ⟨root, hroot, hreach⟩
    induction hreach with
    | refl =>
        rcases hroot with hroot | ⟨name, hget⟩
        · exact hqueried root hroot
        · exact hdeclared name root hget
    | tail _ hstep ih => exact hholds _ _ ih hstep
  intro t u ht hu heq
  exact List.inj_on_of_nodup_map hnodup (hlisted t ht) (hlisted u hu) heq

/-- A struct with an example, and one that holds it and comes back to itself. -/
def sampleTypes : Declarations :=
  [("Leaf", .struct [⟨"Name", .plain "string", false⟩]),
    ("Loop", .struct [⟨"Leaf", .plain "Leaf", false⟩, ⟨"Self", .pointer (.plain "Loop"), false⟩])]

/-- The struct without an example first: the other one is registered on the way. -/
def sampleCalls : List Call :=
  [⟨false, .single (.plain "Loop")⟩, ⟨true, .method [] [.plain "Leaf"]⟩]

/-- All types that occur in the sample. -/
def sampleParts : List GoType :=
  [.struct [⟨"Name", .plain "string", false⟩],
    .struct [⟨"Leaf", .plain "Leaf", false⟩, ⟨"Self", .pointer (.plain "Loop"), false⟩],
    .plain "string", .plain "Leaf", .pointer (.plain "Loop"), .plain "Loop"]

theorem get?_sampleTypes {name : String} {t : GoType}
    (h : Dictionary.get? name sampleTypes = some t) : t ∈ sampleParts ∧ t.isStruct = true := by
  rcases List.mem_cons.mp (Dictionary.mem_of_get? h) with heq | hmem
  · cases heq
    exact ⟨List.mem_cons_self, rfl⟩
  · cases List.mem_singleton.mp hmem
    exact ⟨List.mem_cons_of_mem _ List.mem_cons_self, rfl⟩

theorem noCircle_sampleTypes : NoCircle sampleTypes := by
  intro name hcircle
  obtain ⟨_, ⟨declared, hget, hbottom⟩, -⟩ := TransGen.head'_iff.mp hcircle
  have hstruct := (get?_sampleTypes hget).2
  cases declared with
  | struct fields => cases hbottom
  | _ => cases hstruct

theorem holds_sampleParts {t u : GoType} (ht : t ∈ sampleParts) (h : Holds t u) :
    u ∈ sampleParts := by
  simp only [sampleParts, List.mem_cons, List.not_mem_nil, or_false] at ht
  rcases ht with rfl | rfl | rfl | rfl | rfl | rfl
  · cases h with
    | field hf =>
        cases List.mem_singleton.mp hf
        simp [sampleParts]
  · cases h with
    | field hf =>
        rcases List.mem_cons.mp hf with rfl | hf
        · simp [sampleParts]
        · cases List.mem_singleton.mp hf
          simp [sampleParts]
  · cases h
  · cases h
  · cases h
    simp [sampleParts]
  · cases h

theorem unambiguous_sampleParts {queried : List GoType} (h : ∀ t ∈ queried, t ∈ sampleParts) :
    Unambiguous sampleTypes queried :=
  unambiguous_of_nodup sampleParts h (fun _ _ h => (get?_sampleTypes h).1)
    (fun _ _ => holds_sampleParts) (by decide +kernel)

theorem unambiguous_sample : Unambiguous sampleTypes (queriedTypes sampleCalls) := by
  apply unambiguous_sampleParts
  intro t ht
  rcases List.mem_cons.mp ht with rfl | ht
  · simp [sampleParts]
  · cases List.mem_singleton.mp ht
    simp [sampleParts]

/-- The first call registers the inner struct and fails, and this does not show. -/
theorem replies_uncached_afterFailure :
    (askAll sampleTypes sampleCalls (.fresh [("string", .null)])).1 =
      [.single (.error (.recursive "Loop")), .method (.ok ("[]", "\x7b\"Name\":null\x7d"))] := by
  obtain ⟨hreplies, -, -⟩ := replies_uncached sampleTypes [("string", .null)] sampleCalls
    noCircle_sampleTypes unambiguous_sample
  rw [hreplies]
  rfl

end RollCall.Example
