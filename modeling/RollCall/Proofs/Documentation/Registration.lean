import RollCall.Proofs.Documentation
import RollCall.Proofs.Example.Frame
import RollCall.Proofs.Example.Registration

/-!
# RollCall.Proofs.Documentation.Registration — settings with more examples

The settings can give example values for types. All methods of an interface are illustrated on one
bench, and what is registered for one method is there for the next. It does not show: an interface is
documented with examples exactly if each of its methods has a signature and each type that is asked
for has an example from the registry of the settings. More entries in the settings keep these
examples, so they never turn documentation into an error.

What the settings give is never replaced on the way: at the end of a document it is all registered
still, with the same values, and what came in addition are declared structs.
-/

namespace RollCall.Documentation

open RollCall.Example (NoCircle Unambiguous Grown)

/-! ## §A Illustrating methods one by one -/

/-- The types whose examples a method asks for. -/
def askedBy (walked : WalkedMethod) : List GoType :=
  walked.signature.params.drop 1 ++ walked.signature.results.take 1

/-- The types whose examples all methods together ask for. -/
def askedTypes (sources : Sources) : List GoType := sources.methods.flatMap fun entry => askedBy entry.2

/-- **`Illustrable sources registry name`** — the method has a signature, and every type that it asks
for has an example from the registry. -/
def Illustrable (sources : Sources) (registry : Registry) (name : String) : Prop :=
  ∃ walked, Dictionary.get? name sources.methods = some walked ∧
    ∀ t ∈ askedBy walked, ∃ v, Example.Uncached.ofType sources.types registry t = .ok v

section Illustrating

variable {sources : Sources} {initial registry : Registry}

theorem mem_askedTypes {name : String} {walked : WalkedMethod}
    (h : Dictionary.get? name sources.methods = some walked) {t : GoType} (ht : t ∈ askedBy walked) :
    t ∈ askedTypes sources :=
  List.mem_flatMap.mpr ⟨(name, walked), Dictionary.mem_of_get? h, ht⟩

/-- A method is illustrated exactly if it can be from the registry in the beginning, whatever was
registered since, and what is registered for it does not show either. -/
theorem withExample_grown (hcircle : NoCircle sources.types)
    (hspelling : Unambiguous sources.types (askedTypes sources))
    (hgrown : Grown sources.types (askedTypes sources) initial registry) (m : Method) :
    (¬Illustrable sources initial m.name ∧ ∃ e, withExample sources m (.fresh registry) = .error e) ∨
      Illustrable sources initial m.name ∧ ∃ m' registry',
        withExample sources m (.fresh registry) = .ok (m', .fresh registry') ∧
          Grown sources.types (askedTypes sources) initial registry' := by
  cases hget : Dictionary.get? m.name sources.methods with
  | none =>
      refine Or.inl ⟨?_, .noSignature m.name, by rw [withExample, hget]⟩
      rintro ⟨walked, hwalked, -⟩
      cases hget.symm.trans hwalked
  | some walked =>
      have hasked : ∀ t ∈ askedBy walked, Example.Occurs sources.types (askedTypes sources) t :=
        fun t ht => Example.occurs_of_queried (mem_askedTypes hget ht)
      obtain ⟨registry', hmethod, hgrown'⟩ := Example.ofMethod_uncached hcircle hspelling hgrown
        (fun t ht => hasked t (List.mem_append_left _ ht))
        (fun t ht => hasked t (List.mem_append_right _ ht))
      have hillustrable : Illustrable sources initial m.name ↔
          ∃ texts, Example.Uncached.ofMethod sources.types initial walked.signature.params
            walked.signature.results = .ok texts := by
        rw [Example.Uncached.ofMethod_isOk_iff]
        constructor
        · rintro ⟨walked', hwalked', hall⟩
          cases hget.symm.trans hwalked'
          exact hall
        · exact fun hall => ⟨walked, hget, hall⟩
      rw [hillustrable, withExample, hget]
      simp only [hmethod]
      cases Example.Uncached.ofMethod sources.types initial walked.signature.params
          walked.signature.results with
      | error e =>
          refine Or.inl ⟨?_, .noExample m.name e, rfl⟩
          rintro ⟨texts, htexts⟩
          cases htexts
      | ok texts => exact Or.inr ⟨⟨texts, rfl⟩, _, registry', rfl, hgrown'⟩

theorem methodsWithExamples_isOk_iff (hcircle : NoCircle sources.types)
    (hspelling : Unambiguous sources.types (askedTypes sources))
    (hgrown : Grown sources.types (askedTypes sources) initial registry) (methods : List Method) :
    (∃ result, methodsWithExamples sources methods (.fresh registry) = .ok result) ↔
      ∀ m ∈ methods, Illustrable sources initial m.name := by
  induction methods generalizing registry with
  | nil =>
      refine iff_of_true ⟨_, rfl⟩ ?_
      exact fun _ hm => absurd hm List.not_mem_nil
  | cons m methods ih =>
      rw [List.forall_mem_cons, methodsWithExamples]
      rcases withExample_grown hcircle hspelling hgrown m with
        ⟨hnot, e, hfirst⟩ | ⟨hfirst, m', registry', hok, hgrown'⟩
      · rw [hfirst]
        refine iff_of_false ?_ fun hall => hnot hall.1
        rintro ⟨result, hresult⟩
        cases hresult
      · rw [hok, ← ih hgrown']
        constructor
        · rintro ⟨result, hresult⟩
          obtain ⟨first, hsame, hrest⟩ := except_bind_eq_ok hresult
          cases hsame
          obtain ⟨others, hothers, -⟩ := except_bind_eq_ok hrest
          exact ⟨hfirst, others, hothers⟩
        · rintro ⟨-, others, hothers⟩
          refine ⟨(m' :: others.1, others.2), ?_⟩
          simp only [bind, Except.bind, hothers]
          rfl

end Illustrating

/-- An interface is documented with examples exactly if all methods of its groups can be illustrated
from the registry of the settings. -/
theorem ofPackage_true_isOk_iff (p : Package) (settings : Settings)
    (hcircle : NoCircle p.index.types)
    (hspelling : Unambiguous p.index.types
      (askedTypes (sourcesOf p settings.target.interface))) :
    (∃ docs, ofPackage p settings true = .ok docs) ↔
      ∃ plain, plainGroups p settings.target.interface = .ok plain ∧
        ∀ m ∈ Group.allMethods plain,
          Illustrable (sourcesOf p settings.target.interface) (registry settings) m.name := by
  have hmethods : ∀ plain : List Group,
      (∃ result, groupsWithExamples (sourcesOf p settings.target.interface) plain
        (.fresh (registry settings)) = .ok result) ↔
      ∀ m ∈ Group.allMethods plain,
        Illustrable (sourcesOf p settings.target.interface) (registry settings) m.name := by
    intro plain
    rw [← methodsWithExamples_isOk_iff hcircle hspelling (Example.grown_initial _ _ _),
      methodsWithExamples_allMethods]
    cases groupsWithExamples (sourcesOf p settings.target.interface) plain
      (.fresh (registry settings)) <;> simp [Except.map]
  rw [ofPackage, groupsOf_true]
  constructor
  · rintro ⟨docs, hdocs⟩
    obtain ⟨groups, hgroups, -⟩ := except_bind_eq_ok hdocs
    obtain ⟨plain, hplain, hrest⟩ := except_bind_eq_ok hgroups
    obtain ⟨result, hresult, -⟩ := except_bind_eq_ok hrest
    exact ⟨plain, hplain, (hmethods plain).mp ⟨result, hresult⟩⟩
  · rintro ⟨plain, hplain, hall⟩
    obtain ⟨result, hresult⟩ := (hmethods plain).mpr hall
    rw [hplain]
    simp only [bind, Except.bind, hresult]
    exact ⟨_, rfl⟩

/-! ## §B What a document registers -/

section Frames

variable {sources : Sources} {bench after : Example.Bench}

theorem frame_withExample {m m' : Method} (h : withExample sources m bench = .ok (m', after)) :
    Example.Frame sources.types bench after := by
  unfold withExample at h
  cases hget : Dictionary.get? m.name sources.methods with
  | none =>
      rw [hget] at h
      cases h
  | some walked =>
      have hframe := Example.frame_ofMethod sources.types walked.signature.params
        walked.signature.results bench
      rw [hget] at h
      dsimp only at h
      split at h
      · cases h
      · rename_i hmethod
        cases h
        rw [hmethod] at hframe
        exact hframe

theorem frame_methodsWithExamples {methods methods' : List Method}
    (h : methodsWithExamples sources methods bench = .ok (methods', after)) :
    Example.Frame sources.types bench after := by
  induction methods generalizing methods' bench with
  | nil =>
      cases h
      exact .refl sources.types _
  | cons m methods ih =>
      obtain ⟨⟨m', middle⟩, hfirst, h⟩ := except_bind_eq_ok h
      obtain ⟨⟨others, last⟩, hothers, h⟩ := except_bind_eq_ok h
      cases h
      exact (frame_withExample hfirst).trans (ih hothers)

/-- **What the settings give is registered to the end.** All methods of a document are illustrated on
one bench. At the end no struct is begun, every entry of the registry of the settings has the value
that it had, and every further entry is a declared struct, with an object of its exported fields. -/
theorem registry_kept {settings : Settings} {groups groups' : List Group}
    (h : groupsWithExamples sources groups (.fresh (registry settings)) = .ok (groups', after)) :
    after.unfinished = [] ∧
      (∀ key v, Dictionary.get? key (registry settings) = some v →
        Dictionary.get? key after.registry = some v) ∧
      ∀ key v, Dictionary.get? key (registry settings) = none →
        Dictionary.get? key after.registry = some v →
          ∃ fields, Dictionary.get? key sources.types = some (.struct fields) ∧
            Example.Portrays fields v := by
  have hall := methodsWithExamples_allMethods sources groups (.fresh (registry settings))
  rw [h] at hall
  have hframe := frame_methodsWithExamples hall
  refine ⟨hframe.unfinished, ?_, ?_⟩
  · intro key v hv
    exact hframe.keeps hv
  · intro key v hfree hv
    exact hframe.adds hfree hv

end Frames

/-! ## §C More entries -/

theorem names_registry (settings : Settings) (name : String) :
    name ∈ Dictionary.names (registry settings) ↔
      name ∈ Dictionary.names Registry.seeded ∨ name ∈ Dictionary.names settings.examples :=
  Dictionary.mem_names_setAll name Registry.seeded settings.examples

theorem Illustrable.of_more {sources : Sources} {fewer more : Registry} {name : String}
    (hcircle : NoCircle sources.types)
    (hspelling : Unambiguous sources.types (askedTypes sources))
    (hmore : Dictionary.names fewer ⊆ Dictionary.names more)
    (h : Illustrable sources fewer name) : Illustrable sources more name := by
  obtain ⟨walked, hwalked, hall⟩ := h
  refine ⟨walked, hwalked, ?_⟩
  intro t ht
  exact Example.Uncached.ofType_isOk_of_more hcircle
    (hspelling.of_mem (mem_askedTypes hwalked ht)) hmore (hall t ht)

/-- Registering more types never takes an example away. A type that has an example from one registry
has one from every registry with the same keys and possibly more, whatever the values. So settings
with more example values document every interface with examples that is documented with fewer. -/
theorem examples_kept_by_registering :
    (∀ (types : Declarations) (fewer more : Registry) (t : GoType), NoCircle types →
      Unambiguous types [t] → Dictionary.names fewer ⊆ Dictionary.names more →
        (∃ v, (Example.ofType types t (.fresh fewer)).1 = .ok v) →
          ∃ w, (Example.ofType types t (.fresh more)).1 = .ok w) ∧
    ∀ (p : Package) (settings : Settings) (more : Dictionary Json), NoCircle p.index.types →
      Unambiguous p.index.types (askedTypes (sourcesOf p settings.target.interface)) →
        Dictionary.names settings.examples ⊆ Dictionary.names more →
          (∃ docs, ofPackage p settings true = .ok docs) →
            ∃ docs, ofPackage p { settings with examples := more } true = .ok docs := by
  constructor
  · intro types fewer more t hcircle hspelling hmore
    -- what is registered on the way does not show, so the derivations decide
    have hbuilt : ∀ registry, (Example.ofType types t (.fresh registry)).1 =
        Example.Uncached.ofType types registry t := by
      intro registry
      obtain ⟨_, hanswer, -⟩ := Example.ofType_uncached hcircle hspelling
        (Example.grown_initial types [t] registry)
        (Example.occurs_of_queried (List.mem_singleton_self t))
      rw [hanswer]
    rw [hbuilt, hbuilt]
    exact Example.Uncached.ofType_isOk_of_more hcircle hspelling hmore
  · intro p settings more hcircle hspelling hmore hdocs
    have hkeys : Dictionary.names (registry settings) ⊆
        Dictionary.names (registry { settings with examples := more }) := by
      intro name hname
      rw [names_registry] at hname ⊢
      exact hname.imp_right fun hin => hmore hin
    obtain ⟨plain, hplain, hall⟩ := (ofPackage_true_isOk_iff p settings hcircle hspelling).mp hdocs
    refine (ofPackage_true_isOk_iff p { settings with examples := more } hcircle hspelling).mpr
      ⟨plain, hplain, ?_⟩
    exact fun m hm => (hall m hm).of_more hcircle hspelling hkeys

/-- A package of one interface, whose only method gives a struct. -/
def oneGetter : Package :=
  ⟨[⟨"api.go", ⟨some "api",
    [⟨"Info", false, .struct [⟨"Size", .plain "uint64", false⟩], none⟩,
      ⟨"Miner", false, .interface,
        some [⟨.method ⟨"Get", "Get() Info", [], [.plain "Info"]⟩, ⟨1, 1⟩, []⟩]⟩], []⟩⟩]⟩

theorem types_oneGetter {name : String} {t : GoType}
    (h : Dictionary.get? name oneGetter.index.types = some t) :
    t = .struct [⟨"Size", .plain "uint64", false⟩] ∨ t = .interface := by
  have hmem : (name, t) ∈ [("Info", GoType.struct [⟨"Size", .plain "uint64", false⟩]),
      ("Miner", .interface)] := Dictionary.mem_of_get? h
  rcases List.mem_cons.mp hmem with heq | hmem
  · exact Or.inl (congrArg Prod.snd heq)
  · exact Or.inr (congrArg Prod.snd (List.mem_singleton.mp hmem))

theorem noCircle_oneGetter : NoCircle oneGetter.index.types := by
  intro name hcircle
  obtain ⟨_, ⟨declared, hget, hbottom⟩, -⟩ := Relation.TransGen.head'_iff.mp hcircle
  rcases types_oneGetter hget with rfl | rfl <;> cases hbottom

theorem unambiguous_oneGetter :
    Unambiguous oneGetter.index.types (askedTypes (sourcesOf oneGetter "Miner")) := by
  refine Example.unambiguous_of_nodup [.struct [⟨"Size", .plain "uint64", false⟩], .interface,
    .plain "Info", .plain "uint64"] ?_ ?_ ?_ (by decide +kernel)
  · intro t ht
    cases List.mem_singleton.mp ht
    simp
  · intro name t hget
    rcases types_oneGetter hget with rfl | rfl <;> simp
  · intro t u ht hholds
    simp only [List.mem_cons, List.not_mem_nil, or_false] at ht
    rcases ht with rfl | rfl | rfl | rfl
    · cases hholds with
      | field hf =>
          cases List.mem_singleton.mp hf
          simp
    · cases hholds
    · cases hholds
    · cases hholds

/-- A struct that holds itself keeps its example where a further part is registered, and an interface
is still documented where the struct that it gives is registered. -/
theorem examples_kept_oneGetter :
    (∃ w, (Example.ofType Example.sampleTypes (.plain "Loop")
        (.fresh [("*Loop", .null), ("Leaf", .int 1), ("string", .null)])).1 = .ok w) ∧
      ∃ docs, ofPackage oneGetter ⟨⟨"Miner", "api", "api"⟩, [], [("Info", .null)]⟩ true = .ok docs := by
  obtain ⟨htypes, hsettings⟩ := examples_kept_by_registering
  constructor
  · have hspelling : Unambiguous Example.sampleTypes [.plain "Loop"] := by
      apply Example.unambiguous_sampleParts
      intro t ht
      cases List.mem_singleton.mp ht
      simp [Example.sampleParts]
    exact htypes Example.sampleTypes [("*Loop", .null), ("string", .null)] _ (.plain "Loop")
      Example.noCircle_sampleTypes hspelling (by simp [Dictionary.names]) ⟨_, rfl⟩
  · have hok : (ofPackage oneGetter ⟨⟨"Miner", "api", "api"⟩, [], []⟩ true).isOk = true := by
      decide +kernel
    refine hsettings oneGetter ⟨⟨"Miner", "api", "api"⟩, [], []⟩ [("Info", .null)]
      noCircle_oneGetter unambiguous_oneGetter (by simp [Dictionary.names]) ?_
    cases hdocs : ofPackage oneGetter ⟨⟨"Miner", "api", "api"⟩, [], []⟩ true with
    | error e =>
        rw [hdocs] at hok
        cases hok
    | ok docs => exact ⟨docs, rfl⟩

end RollCall.Documentation
