import RollCall.Proofs.Documentation

/-!
# RollCall.Proofs.Documentation.FileOrder — the order of the files does not show

Walking takes the first declaration of a name and the index keeps the last one, so in general both
depend on the order in which the files of a package are given. Where every name is declared once
there is only one declaration to take: the two lookups give the same for every order of the files,
and so does everything that is made from them. What keeps the order is the list of diagnostics, and
of those every file has its own. Files of other packages are left out before any of this begins.
-/

namespace RollCall

open RollCall.Source

namespace Package

/-! ## §A Files that declare the package -/

/-- Whether a source belongs to the package of that name. -/
def belongs (package : String) (source : String × String) : Bool :=
  (File.ofSource source.2).package == some package

/-- A source with its path, read. -/
def readFile (source : String × String) : PackageFile := ⟨source.1, File.ofSource source.2⟩

/-- The package is made from the sources that belong to it, and from nothing else. -/
theorem ofSources_eq (directory package : String) (sources : List (String × String)) :
    ofSources directory package sources =
      if (sources.filter (belongs package)).isEmpty then .error ⟨package, directory⟩
      else .ok ⟨(sources.filter (belongs package)).map readFile⟩ := by
  have hfiles : (sources.map readFile).filter (fun f => f.file.package == some package) =
      (sources.filter (belongs package)).map readFile := List.filter_map
  have hempty : ((sources.filter (belongs package)).map readFile).isEmpty =
      (sources.filter (belongs package)).isEmpty := List.isEmpty_map
  rw [← hempty, ← hfiles]
  rfl

/-- **`DeclaresOnce files`** — no name is declared twice in the files, by whatever declarations. -/
def DeclaresOnce (files : List PackageFile) : Prop :=
  ((files.flatMap fun f => f.file.specs).map Spec.name).Nodup

theorem DeclaresOnce.perm {files files' : List PackageFile} (h : DeclaresOnce files)
    (hperm : files.Perm files') : DeclaresOnce files' :=
  ((hperm.flatMap_right _).map Spec.name).nodup_iff.mp h

theorem DeclaresOnce.tail {f : PackageFile} {files : List PackageFile}
    (h : DeclaresOnce (f :: files)) : DeclaresOnce files := by
  rw [DeclaresOnce, List.flatMap_cons, List.map_append] at h
  exact h.of_append_right

/-- Of two files one does not declare the name. -/
theorem DeclaresOnce.absent {f g : PackageFile} {files : List PackageFile}
    (h : DeclaresOnce (f :: g :: files)) (name : String) :
    name ∉ f.file.specs.map Spec.name ∨ name ∉ g.file.specs.map Spec.name := by
  rw [DeclaresOnce, List.flatMap_cons, List.flatMap_cons, List.map_append, List.map_append] at h
  rw [← not_and_or]
  rintro ⟨hf, hg⟩
  exact List.disjoint_of_nodup_append h hf (List.mem_append_left _ hg)

/-! ## §B The two lookups -/

theorem walkSpecs_absent {name : String} (path : String) {specs : List Spec}
    (h : name ∉ specs.map Spec.name) : walkSpecs name path specs = (none, []) := by
  induction specs with
  | nil => rfl
  | cons s specs ih =>
      rw [List.map_cons, List.mem_cons, not_or] at h
      have hskip : (s.aliased || s.name != name) = true := by
        rw [Bool.or_eq_true, bne_iff_ne]
        exact Or.inr (Ne.symm h.1)
      rw [walkSpecs, if_pos hskip]
      exact ih h.2

/-- A file that does not declare the name is passed over without a word. -/
theorem walkFiles_absent {name : String} {f : PackageFile} (files : List PackageFile)
    (h : name ∉ f.file.specs.map Spec.name) :
    walkFiles name (f :: files) = walkFiles name files := by
  rw [walkFiles, walkSpecs_absent f.path h]
  rfl

theorem walkFiles_cons_congr {name : String} (f : PackageFile) {files files' : List PackageFile}
    (h : walkFiles name files = walkFiles name files') :
    walkFiles name (f :: files) = walkFiles name (f :: files') := by
  rw [walkFiles, walkFiles, h]

/-- Walking is the same for every order of files that declare each name once. -/
theorem walkFiles_perm (name : String) {files files' : List PackageFile}
    (hperm : files.Perm files') (h : DeclaresOnce files) :
    walkFiles name files = walkFiles name files' := by
  induction hperm with
  | nil => rfl
  | cons f _ ih => exact walkFiles_cons_congr f (ih h.tail)
  | swap f g files =>
      rcases h.absent name with hg | hf
      · rw [walkFiles_absent _ hg]
        exact walkFiles_cons_congr f (walkFiles_absent _ hg).symm
      · rw [walkFiles_absent (g :: files) hf]
        exact walkFiles_cons_congr g (walkFiles_absent _ hf)
  | trans hfirst _ ih ih' => exact (ih h).trans (ih' (h.perm hfirst))

/-- The index is the same for every order of files that declare each name once. -/
theorem index_perm (p p' : Package) (hperm : p.files.Perm p'.files) (h : DeclaresOnce p.files) :
    p.index = p'.index := by
  have hdecls : p.declarations.Perm p'.declarations := hperm.flatMap_right _
  have hnodup : (Dictionary.names (p.declarations.map fun d => (d.name, d))).Nodup := by
    rw [Dictionary.names, List.map_map, declarations_eq_map, List.map_map]
    exact h
  have hentries := hdecls.map fun d => (d.name, d)
  rw [index, index, index_eq_setAll, index_eq_setAll]
  exact Dictionary.ofList_perm hnodup hentries

end Package

/-! ## §C What is made from the lookups -/

namespace SignatureSearch

/-- A search knows the package only through walking. -/
theorem run_congr {p p' : Package} (h : ∀ name, p.walk name = p'.walk name) (index : Index)
    (n : Nat) (s : SignatureSearch) : run p index n s = run p' index n s := by
  induction n generalizing s with
  | zero => rfl
  | succ n ih =>
      have hstep : step p index s = step p' index s := by
        cases hpending : s.pending with
        | nil => rw [step, step, hpending]
        | cons name pending => simp only [step, hpending, h]
      rw [run, run, hstep, ih]

end SignatureSearch

namespace Documentation

/-- What is reported apart from the diagnostics. -/
def report (docs : Documentation) : List Group × Manifest := (docs.groups, docs.manifest)

/-- The groups know the package only through the two lookups. -/
theorem groupsOf_congr {p p' : Package} (hwalk : ∀ name, p.walk name = p'.walk name)
    (hindex : p.index = p'.index) (settings : Settings) (examples : Bool) :
    groupsOf p settings examples = groupsOf p' settings examples := by
  have hplain : ∀ name, plainGroups p name = plainGroups p' name := by
    intro name
    rw [plainGroups, plainGroups, hindex, comments, comments, hwalk name]
  cases examples with
  | false => rw [groupsOf_false, groupsOf_false, hplain]
  | true =>
      have hsources : ∀ name, sourcesOf p name = sourcesOf p' name := by
        intro name
        rw [sourcesOf, sourcesOf, hindex, SignatureSearch.ofInterface,
          SignatureSearch.run_congr hwalk]
        rfl
      rw [groupsOf_true, groupsOf_true, hplain, hsources]

theorem report_congr {p p' : Package} (hwalk : ∀ name, p.walk name = p'.walk name)
    (hindex : p.index = p'.index) (settings : Settings) (examples : Bool) :
    (ofPackage p settings examples).map report = (ofPackage p' settings examples).map report := by
  rw [ofPackage, ofPackage, groupsOf_congr hwalk hindex]
  cases groupsOf p' settings examples <;> rfl

end Documentation

/-! ## §D Diagnostics -/

namespace Package

/-- The diagnostics of the file at a path. -/
def diagnosticsAt (p : Package) (path : String) : List Diagnostic :=
  p.diagnostics.filter fun d => d.file == path

theorem diagnosticsAt_eq (p : Package) (path : String) :
    p.diagnosticsAt path =
      (p.files.filter fun f => f.path == path).flatMap PackageFile.diagnostics := by
  rw [diagnosticsAt, diagnostics]
  induction p.files with
  | nil => rfl
  | cons f files ih =>
      have hfile : ∀ d ∈ f.diagnostics, d.file = f.path := by
        intro d hd
        obtain ⟨fault, -, rfl⟩ := List.mem_map.mp hd
        rfl
      rw [List.flatMap_cons, List.filter_append, ih]
      by_cases hpath : (f.path == path) = true
      · have hall : f.diagnostics.filter (fun d => d.file == path) = f.diagnostics :=
          List.filter_eq_self.mpr fun d hd => by rw [hfile d hd]; exact hpath
        rw [hall, List.filter_cons, if_pos hpath, List.flatMap_cons]
      · have hnone : f.diagnostics.filter (fun d => d.file == path) = [] :=
          List.filter_eq_nil_iff.mpr fun d hd => by rw [hfile d hd]; exact hpath
        rw [hnone, List.filter_cons, if_neg hpath, List.nil_append]

/-- Where no two files have one path, each path has the same diagnostics for every order. -/
theorem diagnosticsAt_perm {p p' : Package} (hperm : p.files.Perm p'.files)
    (h : (p.files.map PackageFile.path).Nodup) (path : String) :
    p.diagnosticsAt path = p'.diagnosticsAt path := by
  have hfiltered := hperm.filter fun f => f.path == path
  have hshort : (p.files.filter fun f => f.path == path).length ≤ 1 := by
    have hcount := List.nodup_iff_count_le_one.mp h path
    rwa [List.count_eq_countP, List.countP_map, List.countP_eq_length_filter] at hcount
  rw [diagnosticsAt_eq, diagnosticsAt_eq]
  cases hfiles : p.files.filter fun f => f.path == path with
  | nil =>
      rw [hfiles] at hfiltered
      rw [hfiltered.nil_eq]
  | cons f rest =>
      rw [hfiles] at hfiltered hshort
      cases rest with
      | nil => rw [hfiltered.singleton_eq]
      | cons g rest => exact absurd hshort (by simp)

/-! ## §E Any order -/

/-- Two lists of sources with the same files of the package, in whatever order and among whatever
other files, make the same package as far as a name is declared once. Either both have no file of the
package, or walking, the index, the method sets and all that is reported are the same for every name
and all settings, and each file has the same diagnostics. -/
theorem ofSources_order (directory package : String) {sources sources' : List (String × String)}
    (hperm : (sources.filter (belongs package)).Perm (sources'.filter (belongs package)))
    (honce : DeclaresOnce ((sources.filter (belongs package)).map readFile)) :
    (ofSources directory package sources = .error ⟨package, directory⟩ ∧
        ofSources directory package sources' = .error ⟨package, directory⟩) ∨
      ∃ p p', ofSources directory package sources = .ok p ∧
        ofSources directory package sources' = .ok p' ∧
        (∀ name, p.walk name = p'.walk name ∧
          Dictionary.get? name p.index = Dictionary.get? name p'.index ∧
          MethodSet.names p.index name = MethodSet.names p'.index name) ∧
        (∀ settings examples, (Documentation.ofPackage p settings examples).map Documentation.report =
          (Documentation.ofPackage p' settings examples).map Documentation.report) ∧
        (p.files.map fun f => (f.path, f.diagnostics)).Perm
          (p'.files.map fun f => (f.path, f.diagnostics)) ∧
        ((p.files.map PackageFile.path).Nodup →
          ∀ path, p.diagnosticsAt path = p'.diagnosticsAt path) := by
  rw [ofSources_eq, ofSources_eq, hperm.isEmpty_eq]
  by_cases hempty : (sources'.filter (belongs package)).isEmpty = true
  · rw [if_pos hempty, if_pos hempty]
    exact Or.inl ⟨rfl, rfl⟩
  · rw [if_neg hempty, if_neg hempty]
    have hfiles := hperm.map readFile
    refine Or.inr ⟨_, _, rfl, rfl, ?_⟩
    have hwalk := fun name => walkFiles_perm name hfiles honce
    have hindex := index_perm ⟨_⟩ ⟨_⟩ hfiles honce
    refine ⟨fun name => ⟨hwalk name, ?_, ?_⟩, ?_, hfiles.map _, ?_⟩
    · rw [hindex]
    · rw [hindex]
    · exact fun settings examples => Documentation.report_congr hwalk hindex settings examples
    · exact fun hpaths path => diagnosticsAt_perm hfiles hpaths path

/-- Two files of a package. -/
def twoSources : List (String × String) :=
  [("a.go", "package api\ntype A interface \x7b\nC\nM(B) B\n\x7d\ntype B = struct \x7b\x7d\n"),
   ("c.go", "package api\ntype C interface \x7b\nV() bool\n\x7d\n")]

/-- A file of another package, which declares the same name. -/
def strayFile : String × String := ("x.go", "package other\ntype A struct \x7b\x7d\n")

/-- The two files in the other order, with a file of another package among them, have the same
examples. -/
theorem ofSources_order_twoSources :
    ∃ p p', ofSources "d" "api" twoSources = .ok p ∧
      ofSources "d" "api" (strayFile :: twoSources.reverse) = .ok p' ∧
      p.walk "A" = p'.walk "A" ∧
      (Documentation.ofPackage p ⟨⟨"A", "api", "d"⟩, [], []⟩ true).map Documentation.report =
        (Documentation.ofPackage p' ⟨⟨"A", "api", "d"⟩, [], []⟩ true).map Documentation.report := by
  have hperm : (twoSources.filter (belongs "api")).Perm
      ((strayFile :: twoSources.reverse).filter (belongs "api")) := by decide +kernel
  have honce : DeclaresOnce ((twoSources.filter (belongs "api")).map readFile) := by
    unfold DeclaresOnce
    decide +kernel
  have hbelongs : (twoSources.filter (belongs "api")).isEmpty = false := by decide +kernel
  rcases ofSources_order "d" "api" hperm honce with ⟨herror, -⟩ | ⟨p, p', hp, hp', hname, hdocs, -⟩
  · rw [ofSources_eq, hbelongs] at herror
    cases herror
  · exact ⟨p, p', hp, hp', (hname "A").1, hdocs _ true⟩

end Package

end RollCall
