import RollCall.Proofs.Documentation
import RollCall.Proofs.Example.Layer
import RollCall.Proofs.SignatureSearch

/-!
# RollCall.Proofs.Documentation.Signatures — which methods have a signature

The names of the method set come from the index, where the last declaration of a name counts, and the
signatures from walking, where the first interface that is no alias counts. A method that is listed
by the one and not by the other has no signature, and its interface is not documented with examples.
The condition under which this never happens is exact. It holds wherever the two lookups agree on the
interfaces embedded, so for instance where each of them is declared once and not as an alias.
-/

namespace RollCall.Documentation

open RollCall.MethodSet (Mentions Embeds)
open Relation (ReflTransGen)

/-! ## §A Failing for want of a signature -/

section Attaching

variable {sources : Sources}

theorem withExample_noSignature {m : Method} {bench : Example.Bench} {name : String}
    (h : withExample sources m bench = .error (.noSignature name)) :
    name = m.name ∧ ¬Dictionary.has m.name sources.methods = true := by
  rw [withExample] at h
  rw [Dictionary.has]
  cases hget : Dictionary.get? m.name sources.methods with
  | none =>
      rw [hget] at h
      cases h
      exact ⟨rfl, Bool.false_ne_true⟩
  | some walked =>
      rw [hget] at h
      simp only at h
      split at h <;> cases h

/-- A failed sequence failed in its first part, or in the second after the first was done. -/
theorem except_bind_eq_error {ε α β : Type} {x : Except ε α} {f : α → Except ε β} {e : ε}
    (h : x >>= f = .error e) : x = .error e ∨ ∃ a, x = .ok a ∧ f a = .error e := by
  cases x with
  | error e' =>
      cases h
      exact Or.inl rfl
  | ok a => exact Or.inr ⟨a, rfl, h⟩

theorem methodsWithExamples_noSignature {methods : List Method} {bench : Example.Bench}
    {name : String} (h : methodsWithExamples sources methods bench = .error (.noSignature name)) :
    ∃ m ∈ methods, m.name = name ∧ ¬Dictionary.has name sources.methods = true := by
  induction methods generalizing bench with
  | nil => cases h
  | cons m methods ih =>
      rcases except_bind_eq_error h with hfirst | ⟨first, -, h⟩
      · obtain ⟨rfl, hnot⟩ := withExample_noSignature hfirst
        exact ⟨m, List.mem_cons_self, rfl, hnot⟩
      · rcases except_bind_eq_error h with hothers | ⟨others, -, h⟩
        · obtain ⟨x, hx, hrest⟩ := ih hothers
          exact ⟨x, List.mem_cons_of_mem _ hx, hrest⟩
        · cases h

/-- Where all types of all signatures are registered, nothing but a missing signature can fail. -/
theorem withExample_registered {m : Method} {bench : Example.Bench}
    (hregistered : ∀ walked, Dictionary.get? m.name sources.methods = some walked →
      ∀ t ∈ walked.signature.params ++ walked.signature.results,
        Dictionary.get? t.spelling bench.registry ≠ none)
    (hhas : Dictionary.has m.name sources.methods = true) :
    ∃ m', withExample sources m bench = .ok (m', bench) := by
  obtain ⟨walked, hwalked⟩ := Option.isSome_iff_exists.mp hhas
  have hall := hregistered walked hwalked
  obtain ⟨texts, htexts⟩ := Example.ofMethod_registered sources.types
    (fun t ht => hall t (List.mem_append_left _ ht))
    (fun t ht => hall t (List.mem_append_right _ ht))
  refine ⟨{ m with inputExample := some texts.1, responseExample := some texts.2 }, ?_⟩
  rw [withExample, hwalked]
  simp only [htexts]

theorem methodsWithExamples_registered {methods : List Method} (bench : Example.Bench)
    (hregistered : ∀ name walked, Dictionary.get? name sources.methods = some walked →
      ∀ t ∈ walked.signature.params ++ walked.signature.results,
        Dictionary.get? t.spelling bench.registry ≠ none)
    (hmissing : ∃ m ∈ methods, ¬Dictionary.has m.name sources.methods = true) :
    ∃ name, methodsWithExamples sources methods bench = .error (.noSignature name) := by
  induction methods with
  | nil =>
      obtain ⟨m, hm, -⟩ := hmissing
      cases hm
  | cons m methods ih =>
      by_cases hhas : Dictionary.has m.name sources.methods = true
      · obtain ⟨m', hm'⟩ := withExample_registered (hregistered m.name) hhas
        obtain ⟨x, hx, hnot⟩ := hmissing
        rcases List.mem_cons.mp hx with rfl | hx
        · exact absurd hhas hnot
        · obtain ⟨name, hname⟩ := ih ⟨x, hx, hnot⟩
          refine ⟨name, ?_⟩
          rw [methodsWithExamples, hm']
          simp only [bind, Except.bind, hname]
      · refine ⟨m.name, ?_⟩
        rw [Dictionary.has, Option.not_isSome_iff_eq_none] at hhas
        rw [methodsWithExamples, withExample, hhas]
        rfl

end Attaching

/-! ## §B Settings that leave nothing else to fail -/

/-- Settings with an example for every type of every signature of an interface. -/
def registerAll (p : Package) (target : String) : Settings where
  target := ⟨target, "api", "."⟩
  subscriptions := []
  examples := Dictionary.ofList <| (sourcesOf p target).methods.flatMap fun entry =>
    (entry.2.signature.params ++ entry.2.signature.results).map fun t => (t.spelling, Json.null)

theorem registry_registerAll {p : Package} {target name : String} {walked : WalkedMethod}
    (h : Dictionary.get? name (sourcesOf p target).methods = some walked) :
    ∀ t ∈ walked.signature.params ++ walked.signature.results,
      Dictionary.get? t.spelling (registry (registerAll p target)) ≠ none := by
  intro t ht hnone
  rw [Dictionary.get?_eq_none_iff, registry, Dictionary.mem_names_setAll, registerAll,
    Dictionary.mem_names_ofList] at hnone
  apply hnone
  refine Or.inr (List.mem_map.mpr ⟨(t.spelling, Json.null), List.mem_flatMap.mpr ?_, rfl⟩)
  exact ⟨(name, walked), Dictionary.mem_of_get? h, List.mem_map.mpr ⟨t, ht, rfl⟩⟩

theorem except_map_eq_error {ε α β : Type} (f : α → β) (x : Except ε α) (e : ε) :
    x.map f = .error e ↔ x = .error e := by
  cases x <;> simp [Except.map]

/-- Documenting an interface with examples fails where going through its methods in turn does. -/
theorem ofPackage_true_eq_error {p : Package} {settings : Settings} {names : List String}
    (h : MethodSet.names p.index settings.target.interface = .ok names) (e : DocumentationError) :
    ofPackage p settings true = .error e ↔
      methodsWithExamples (sourcesOf p settings.target.interface)
        (Group.allMethods (Group.ofNames names (comments p settings.target.interface)))
        (.fresh (registry settings)) = .error e := by
  have hplain : plainGroups p settings.target.interface =
      .ok (Group.ofNames names (comments p settings.target.interface)) := by
    rw [plainGroups, h]
  rw [methodsWithExamples_allMethods, except_map_eq_error, ofPackage, groupsOf_true, hplain]
  show ((groupsWithExamples (sourcesOf p settings.target.interface)
    (Group.ofNames names (comments p settings.target.interface))
    (.fresh (registry settings))).map Prod.fst).map _ = _ ↔ _
  rw [except_map_eq_error, except_map_eq_error]

/-! ## §C The exact condition -/

/-- **`Signed p target m`** — the first interface declaration of some name reachable from the target
lists the method. -/
def Signed (p : Package) (target m : String) : Prop :=
  ∃ inner, ReflTransGen (Mentions p.index) target inner ∧ p.FirstDeclares inner m

theorem has_sourcesOf_iff (p : Package) (target m : String) :
    Dictionary.has m (sourcesOf p target).methods = true ↔ Signed p target m :=
  SignatureSearch.has_signature_iff p p.index target m

/-- Where the two lookups agree on all interfaces embedded, every method is signed. -/
theorem signed_of_lookups_agree {p : Package} {target m : String}
    (hagree : ∀ inner, ReflTransGen (Embeds p.index) target inner →
      Package.firstInterface? inner p.specs = Package.lastInterface? inner p.specs)
    (h : ∃ inner, ReflTransGen (Embeds p.index) target inner ∧
      MethodSet.Declares p.index inner m) : Signed p target m := by
  obtain ⟨inner, hreach, shape, hshape, hm⟩ := h
  rw [Package.shape?_index, ← hagree inner hreach] at hshape
  obtain ⟨elements, helements, rfl⟩ := Option.map_eq_some_iff.mp hshape
  exact ⟨inner, MethodSet.mentions_of_embeds hreach, elements, helements, hm⟩

/-- A signature is missing only for a method of the method set that is not signed. -/
theorem not_signed_of_noSignature {p : Package} {settings : Settings} {names : List String}
    (h : MethodSet.names p.index settings.target.interface = .ok names) {m : String}
    (herror : ofPackage p settings true = .error (.noSignature m)) :
    m ∈ names ∧ ¬Signed p settings.target.interface m := by
  obtain ⟨method, hmethod, rfl, hnot⟩ :=
    methodsWithExamples_noSignature ((ofPackage_true_eq_error h _).mp herror)
  rw [has_sourcesOf_iff] at hnot
  refine ⟨?_, hnot⟩
  obtain ⟨name, hname, rfl⟩ :=
    List.mem_map.mp ((Group.allMethods_ofNames_perm names _).mem_iff.mp hmethod)
  exact hname

/-- Where a method of the method set is not signed, a signature is missing as soon as no type is
without an example. -/
theorem noSignature_of_not_signed {p : Package} {target : String} {names : List String}
    (h : MethodSet.names p.index target = .ok names) {m : String} (hm : m ∈ names)
    (hnot : ¬Signed p target m) :
    ∃ name, ofPackage p (registerAll p target) true = .error (.noSignature name) := by
  have hmethod : Group.methodOf (comments p target) m ∈
      Group.allMethods (Group.ofNames names (comments p target)) :=
    (Group.allMethods_ofNames_perm names _).mem_iff.mpr (List.mem_map.mpr ⟨m, hm, rfl⟩)
  obtain ⟨name, hname⟩ := methodsWithExamples_registered (.fresh (registry (registerAll p target)))
    (fun _ _ hwalked => registry_registerAll hwalked)
    ⟨_, hmethod, fun hhas => hnot ((has_sourcesOf_iff p target m).mp hhas)⟩
  have hnames : MethodSet.names p.index (registerAll p target).target.interface = .ok names := h
  exact ⟨name, (ofPackage_true_eq_error hnames _).mpr hname⟩

/-- Of the methods in a method set exactly those have a signature that the first interface
declaration of some reachable name lists. No settings make the documentation fail for want of a
signature exactly if these are all methods of the set, as they are wherever the first and the last
declaration of every embedded interface are one and the same. -/
theorem signatures_complete_iff (p : Package) (target : String) {names : List String}
    (h : MethodSet.names p.index target = .ok names) :
    (∀ m, Dictionary.has m (SignatureSearch.ofInterface p p.index target).methods = true ↔
      Signed p target m) ∧
    ((∀ settings : Settings, settings.target.interface = target →
        ∀ m, ofPackage p settings true ≠ .error (.noSignature m)) ↔
      ∀ m ∈ names, Signed p target m) ∧
    ((∀ inner, ReflTransGen (Embeds p.index) target inner →
        Package.firstInterface? inner p.specs = Package.lastInterface? inner p.specs) →
      ∀ m ∈ names, Signed p target m) := by
  refine ⟨has_sourcesOf_iff p target, ⟨?_, ?_⟩, ?_⟩
  · intro hnever m hm
    by_contra hnot
    -- no type can fail under these settings, so what fails is the signature
    obtain ⟨name, hname⟩ := noSignature_of_not_signed h hm hnot
    exact hnever (registerAll p target) rfl name hname
  · rintro hall settings rfl m herror
    obtain ⟨hm, hnot⟩ := not_signed_of_noSignature h herror
    exact hnot (hall m hm)
  · intro hagree m hm
    rw [MethodSet.eq_of_names_ok h] at hm
    exact signed_of_lookups_agree hagree ((MethodSet.mem_methods_tour p.index target m).mp hm).2

/-- A package whose target embeds an alias of an interface. -/
def aliasing : Package :=
  ⟨[⟨"api/api.go", Source.File.ofSource
    ("package api\ntype Common = interface \x7b\nVersion() string\n\x7d\n" ++
      "type Miner interface \x7b\nCommon\n\x7d\n")⟩]⟩

/-- The method of an embedded alias is listed, and it has no signature. -/
theorem aliasing_not_signed :
    MethodSet.names aliasing.index "Miner" = .ok ["Version"] ∧
      ¬Signed aliasing "Miner" "Version" ∧
      ¬∀ settings : Settings, settings.target.interface = "Miner" →
        ∀ m, ofPackage aliasing settings true ≠ .error (.noSignature m) := by
  have hnames : MethodSet.names aliasing.index "Miner" = .ok ["Version"] := by decide +kernel
  obtain ⟨hsigned, hnever, -⟩ := signatures_complete_iff aliasing "Miner" hnames
  have hnot : ¬Signed aliasing "Miner" "Version" := by
    rw [← hsigned "Version"]
    decide +kernel
  exact ⟨hnames, hnot, fun hall => hnot (hnever.mp hall "Version" (List.mem_singleton_self _))⟩

end RollCall.Documentation
