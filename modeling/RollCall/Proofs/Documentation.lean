import RollCall.Proofs.Comment.Index
import RollCall.Proofs.MethodSet
import RollCall.Proofs.Package
import RollCall.Proofs.Report
import RollCall.Project

/-!
# RollCall.Proofs.Documentation — the documentation of a project loses nothing on its way

From the files of a project to its documentation there are six stages: the package is loaded, the
interface is walked for its comments, its methods are listed, sorted into groups, given examples on
request, and put into the manifest. The walk and the listing look the interface up in different ways,
so the comments are those of one declaration and the names those of another. `Faithful` says what
holds of the outcome all the same.
-/

namespace RollCall

open RollCall.Source

/-! ## §A Examples change nothing else -/

/-- A method without its examples. -/
def Method.bare (m : Method) : Method := { m with inputExample := none, responseExample := none }

/-- A method that has both examples. -/
def Method.Illustrated (m : Method) : Prop :=
  m.inputExample.isSome = true ∧ m.responseExample.isSome = true

/-- A group without the examples of its methods. -/
def Group.bare (g : Group) : Group := { g with methods := g.methods.map Method.bare }

theorem Group.allMethods_map_bare (groups : List Group) :
    allMethods (groups.map Group.bare) = (allMethods groups).map Method.bare := by
  rw [allMethods, allMethods, List.flatMap_map, List.map_flatMap]
  rfl

/-- Groups that come from names have no examples. -/
theorem Group.map_bare_ofNames (names : List String) (index : Comment.Index) :
    (ofNames names index).map Group.bare = ofNames names index := by
  refine (List.map_congr_left ?_).trans (List.map_id _)
  intro g hg
  obtain ⟨⟨group, members⟩, -, rfl⟩ := List.mem_map.mp hg
  have hmethods : ∀ methods : List Method, (∀ m ∈ methods, m.bare = m) →
      methods.map Method.bare = methods := by
    intro methods hbare
    exact (List.map_congr_left hbare).trans (List.map_id _)
  rw [Group.bare, hmethods]
  · rfl
  · intro m hm
    obtain ⟨name, -, rfl⟩ := List.mem_map.mp (List.mem_mergeSort.mp hm)
    rfl

namespace Documentation

theorem except_bind_eq_ok {ε α β : Type} {x : Except ε α} {f : α → Except ε β} {b : β}
    (h : x >>= f = .ok b) : ∃ a, x = .ok a ∧ f a = .ok b := by
  cases x with
  | error e => cases h
  | ok a => exact ⟨a, rfl, h⟩

theorem except_mapError_eq_ok {ε ε' α : Type} (f : ε → ε') (x : Except ε α) (a : α) :
    x.mapError f = .ok a ↔ x = .ok a := by
  cases x <;> simp [Except.mapError]

variable {sources : Sources}

theorem withExample_ok {m m' : Method} {bench bench' : Example.Bench}
    (h : withExample sources m bench = .ok (m', bench')) : m'.bare = m.bare ∧ m'.Illustrated := by
  rw [withExample] at h
  split at h
  · cases h
  · split at h
    · cases h
    · cases h
      exact ⟨rfl, rfl, rfl⟩

theorem methodsWithExamples_ok {methods methods' : List Method} {bench bench' : Example.Bench}
    (h : methodsWithExamples sources methods bench = .ok (methods', bench')) :
    methods'.map Method.bare = methods.map Method.bare ∧ ∀ m ∈ methods', m.Illustrated := by
  induction methods generalizing methods' bench with
  | nil =>
      cases h
      exact ⟨rfl, fun _ hm => absurd hm List.not_mem_nil⟩
  | cons m methods ih =>
      obtain ⟨⟨m', middle⟩, hfirst, h⟩ := except_bind_eq_ok h
      obtain ⟨⟨others, last⟩, hothers, h⟩ := except_bind_eq_ok h
      cases h
      obtain ⟨hbare, hshown⟩ := withExample_ok hfirst
      obtain ⟨hbares, hshowns⟩ := ih hothers
      refine ⟨by rw [List.map_cons, List.map_cons, hbare, hbares], ?_⟩
      intro x hx
      rcases List.mem_cons.mp hx with rfl | hx
      · exact hshown
      · exact hshowns x hx

theorem methodsWithExamples_append (methods others : List Method) (bench : Example.Bench) :
    methodsWithExamples sources (methods ++ others) bench = (do
      let (methods, bench) ← methodsWithExamples sources methods bench
      let (others, bench) ← methodsWithExamples sources others bench
      pure (methods ++ others, bench)) := by
  induction methods generalizing bench with
  | nil =>
      rw [List.nil_append]
      cases hothers : methodsWithExamples sources others bench with
      | error e => simp [methodsWithExamples, hothers, bind, Except.bind]
      | ok result => simp [methodsWithExamples, hothers, bind, Except.bind, pure, Except.pure]
  | cons m methods ih =>
      rw [List.cons_append, methodsWithExamples, methodsWithExamples]
      cases withExample sources m bench with
      | error e => rfl
      | ok first =>
          simp only [bind, Except.bind, ih]
          cases methodsWithExamples sources methods first.2 with
          | error e => rfl
          | ok result =>
              simp only [pure, Except.pure]
              cases methodsWithExamples sources others result.2 <;> rfl

/-- The groups play no part in adding examples: the methods of all groups are gone through in turn. -/
theorem methodsWithExamples_allMethods (sources : Sources) (groups : List Group) (bench : Example.Bench) :
    methodsWithExamples sources (Group.allMethods groups) bench =
      (groupsWithExamples sources groups bench).map fun result =>
        (Group.allMethods result.1, result.2) := by
  induction groups generalizing bench with
  | nil => rfl
  | cons g groups ih =>
      have hall : Group.allMethods (g :: groups) = g.methods ++ Group.allMethods groups := rfl
      rw [hall, methodsWithExamples_append, groupsWithExamples]
      cases methodsWithExamples sources g.methods bench with
      | error e => rfl
      | ok result =>
          simp only [bind, Except.bind, ih]
          cases groupsWithExamples sources groups result.2 <;> rfl

theorem groupsWithExamples_bare {groups groups' : List Group} {bench bench' : Example.Bench}
    (h : groupsWithExamples sources groups bench = .ok (groups', bench')) :
    groups'.map Group.bare = groups.map Group.bare := by
  induction groups generalizing groups' bench with
  | nil =>
      cases h
      rfl
  | cons g groups ih =>
      obtain ⟨⟨methods, middle⟩, hmethods, h⟩ := except_bind_eq_ok h
      obtain ⟨⟨others, last⟩, hothers, h⟩ := except_bind_eq_ok h
      cases h
      obtain ⟨hbare, -⟩ := methodsWithExamples_ok hmethods
      rw [List.map_cons, List.map_cons, ih hothers, Group.bare, hbare]
      rfl

/-! ## §B The stages between package and documentation -/

theorem manifest_bare (groups : List Group) (subscriptions : List String) :
    Manifest.ofGroups (groups.map Group.bare) subscriptions =
      Manifest.ofGroups groups subscriptions := by
  rw [Manifest.ofGroups, Manifest.ofGroups, Group.allMethods_map_bare, List.map_map]
  rfl

/-- The documentation of a method that the interface declares itself is that of its own comments. -/
theorem commentFor_comments (p : Package) (interface m : String) :
    (comments p interface).commentFor m =
      (p.walkedMethod? interface m).elim Comment.placeholder fun walked =>
        Comment.own (walked.comments.map Comment.Cluster.text) := by
  rw [comments, Package.walkedMethod?]
  cases hwalk : (p.walk interface).1 with
  | none => rfl
  | some walked =>
      have hannotated : walked.annotated = Dictionary.mapValues
          (fun w => w.comments.map Comment.Cluster.text) walked.methods := rfl
      have hnodup : (Dictionary.names walked.annotated).Nodup := by
        rw [hannotated, Dictionary.names_mapValues]
        exact (Package.ascending_walk hwalk).nodup
      show (Comment.Index.ofMethods walked.annotated).commentFor m = _
      rw [Comment.Index.commentFor_ofMethods hnodup, hannotated, Dictionary.get?_mapValues,
        Option.bind_some]
      cases Dictionary.get? m walked.methods <;> rfl

theorem plainGroups_ok {p : Package} {interface : String} {groups : List Group}
    (h : plainGroups p interface = .ok groups) :
    ∃ names, MethodSet.names p.index interface = .ok names ∧
      groups = Group.ofNames names (comments p interface) := by
  rw [plainGroups] at h
  cases hnames : MethodSet.names p.index interface with
  | error e =>
      rw [hnames] at h
      cases h
  | ok names =>
      rw [hnames] at h
      cases h
      exact ⟨names, rfl, rfl⟩

theorem groupsOf_false (p : Package) (settings : Settings) :
    groupsOf p settings false = plainGroups p settings.target.interface := by
  rw [groupsOf]
  cases plainGroups p settings.target.interface <;> rfl

/-- What the examples of an interface are made from. -/
def sourcesOf (p : Package) (interface : String) : Sources :=
  ⟨p.index.types, (SignatureSearch.ofInterface p p.index interface).methods⟩

theorem groupsOf_true (p : Package) (settings : Settings) :
    groupsOf p settings true = (do
      let plain ← plainGroups p settings.target.interface
      let result ← groupsWithExamples (sourcesOf p settings.target.interface) plain
        (.fresh (registry settings))
      pure result.1) := rfl

/-- Groups with examples are the plain groups, with both examples for every method. -/
theorem groupsOf_true_ok {p : Package} {settings : Settings} {groups : List Group}
    (h : groupsOf p settings true = .ok groups) :
    plainGroups p settings.target.interface = .ok (groups.map Group.bare) ∧
      ∀ m ∈ Group.allMethods groups, m.Illustrated := by
  rw [groupsOf_true] at h
  obtain ⟨plain, hplain, h⟩ := except_bind_eq_ok h
  obtain ⟨⟨groups', bench⟩, hexamples, h⟩ := except_bind_eq_ok h
  cases h
  have hall := methodsWithExamples_allMethods (sourcesOf p settings.target.interface) plain
    (.fresh (registry settings))
  rw [hexamples] at hall
  obtain ⟨names, -, rfl⟩ := plainGroups_ok hplain
  have hbare := groupsWithExamples_bare hexamples
  rw [Group.map_bare_ofNames] at hbare
  exact ⟨hbare ▸ hplain, (methodsWithExamples_ok hall).2⟩

theorem plainGroups_of_groupsOf {p : Package} {settings : Settings} {examples : Bool}
    {groups : List Group} (h : groupsOf p settings examples = .ok groups) :
    plainGroups p settings.target.interface = .ok (groups.map Group.bare) := by
  cases examples with
  | true => exact (groupsOf_true_ok h).1
  | false =>
      rw [groupsOf_false] at h
      obtain ⟨names, -, rfl⟩ := plainGroups_ok h
      rw [Group.map_bare_ofNames]
      exact h

theorem ofPackage_ok {p : Package} {settings : Settings} {examples : Bool} {docs : Documentation}
    (h : ofPackage p settings examples = .ok docs) :
    ∃ groups, groupsOf p settings examples = .ok groups ∧
      docs = ⟨groups, Manifest.ofGroups groups settings.subscriptions, p.diagnostics⟩ := by
  obtain ⟨groups, hgroups, h⟩ := except_bind_eq_ok h
  cases h
  exact ⟨groups, hgroups, rfl⟩

/-- Without examples there is documentation of every interface of the package. -/
theorem ofPackage_false_isOk (p : Package) (settings : Settings) :
    (∃ docs, ofPackage p settings false = .ok docs) ↔
      p.index.shape? settings.target.interface ≠ none := by
  constructor
  · rintro ⟨docs, h⟩ hnone
    obtain ⟨groups, hgroups, -⟩ := ofPackage_ok h
    rw [groupsOf_false] at hgroups
    obtain ⟨names, hnames, -⟩ := plainGroups_ok hgroups
    rw [MethodSet.names_eq_error hnone] at hnames
    cases hnames
  · intro hsome
    let groups := Group.ofNames
      (Dictionary.names (MethodSet.tour p.index settings.target.interface).methods)
      (comments p settings.target.interface)
    have hgroups : groupsOf p settings false = .ok groups := by
      rw [groupsOf_false, plainGroups, MethodSet.names_eq_ok hsome]
    refine ⟨⟨groups, Manifest.ofGroups groups settings.subscriptions, p.diagnostics⟩, ?_⟩
    rw [ofPackage, hgroups]
    rfl

/-- With examples, every method has both, and without them the documentation is otherwise the same. -/
theorem ofPackage_true {p : Package} {settings : Settings} {docs : Documentation}
    (h : ofPackage p settings true = .ok docs) :
    ofPackage p settings false = .ok { docs with groups := docs.groups.map Group.bare } ∧
      ∀ m ∈ Group.allMethods docs.groups, m.Illustrated := by
  obtain ⟨groups, hgroups, rfl⟩ := ofPackage_ok h
  obtain ⟨hplain, hshown⟩ := groupsOf_true_ok hgroups
  refine ⟨?_, hshown⟩
  rw [ofPackage, groupsOf_false, hplain, ← manifest_bare groups]
  rfl

theorem ofPackage_false {p : Package} {settings : Settings} {docs : Documentation}
    (h : ofPackage p settings false = .ok docs) :
    ∀ m ∈ Group.allMethods docs.groups, m.inputExample = none ∧ m.responseExample = none := by
  obtain ⟨groups, hgroups, rfl⟩ := ofPackage_ok h
  rw [groupsOf_false] at hgroups
  obtain ⟨names, -, rfl⟩ := plainGroups_ok hgroups
  intro m hm
  have hmem := (Group.allMethods_ofNames_perm names _).mem_iff.mp hm
  obtain ⟨name, -, rfl⟩ := List.mem_map.mp hmem
  exact ⟨rfl, rfl⟩

/-- **`Faithful p settings docs`** — the documentation says of the interface what the package says. -/
structure Faithful (p : Package) (settings : Settings) (docs : Documentation) : Prop where
  /-- All groups together hold every name of the method set once, and so does the manifest. -/
  methods : ∃ names, MethodSet.names p.index settings.target.interface = .ok names ∧
    ((Group.allMethods docs.groups).map Method.name).Nodup ∧
      ((Group.allMethods docs.groups).map Method.name).Perm names ∧
        ∀ m, m ∈ Dictionary.names docs.manifest ↔ m ∈ names
  /-- A method opens a subscription in the manifest exactly if the settings list it. -/
  subscription : ∀ m flag, Dictionary.get? m docs.manifest = some flag →
    (flag = true ↔ m ∈ settings.subscriptions)
  /-- A method has the documentation of its comments in the walked interface, if it is there. -/
  comment : ∀ m ∈ Group.allMethods docs.groups,
    m.comment = (p.walkedMethod? settings.target.interface m.name).elim Comment.placeholder
      fun walked => Comment.own (walked.comments.map Comment.Cluster.text)
  /-- The faults of the sources are passed on. -/
  diagnostics : docs.diagnostics = p.diagnostics

theorem faithful_of_ok {p : Package} {settings : Settings} {examples : Bool} {docs : Documentation}
    (h : ofPackage p settings examples = .ok docs) : Faithful p settings docs := by
  obtain ⟨groups, hgroups, rfl⟩ := ofPackage_ok h
  obtain ⟨names, hnames, hplain⟩ := plainGroups_ok (plainGroups_of_groupsOf hgroups)
  -- up to examples, the methods of all groups are those of the names
  have hbare : ((Group.allMethods groups).map Method.bare).Perm
      (names.map (Group.methodOf (comments p settings.target.interface))) := by
    rw [← Group.allMethods_map_bare, hplain]
    exact Group.allMethods_ofNames_perm _ _
  have hperm : ((Group.allMethods groups).map Method.name).Perm names := by
    have hmap := hbare.map Method.name
    rw [List.map_map, List.map_map] at hmap
    exact hmap.trans (List.Perm.of_eq (List.map_id names))
  have hascending : names.Pairwise (· < ·) := by
    rw [MethodSet.eq_of_names_ok hnames]
    exact MethodSet.names_ascending _ _
  refine ⟨⟨names, hnames, ?_, hperm, ?_⟩, ?_, ?_, rfl⟩
  · exact hperm.nodup_iff.mpr (hascending.imp fun hlt => ne_of_lt hlt)
  · intro m
    rw [Manifest.mem_names_ofGroups, hperm.mem_iff]
  · intro m flag hflag
    have hmem : m ∈ Dictionary.names (Manifest.ofGroups groups settings.subscriptions) :=
      List.mem_map.mpr ⟨_, Dictionary.mem_of_get? hflag, rfl⟩
    rw [Manifest.mem_names_ofGroups] at hmem
    rw [Manifest.get?_ofGroups hmem] at hflag
    cases hflag
    exact List.contains_iff_mem
  · intro m hm
    have hmem := hbare.mem_iff.mp (List.mem_map.mpr ⟨m, hm, rfl⟩)
    obtain ⟨name, -, hmethod⟩ := List.mem_map.mp hmem
    have hname : name = m.name := congrArg Method.name hmethod
    have hcomment : (comments p settings.target.interface).commentFor name = m.comment :=
      congrArg Method.comment hmethod
    rw [← hcomment, hname, commentFor_comments]

end Documentation

end RollCall
