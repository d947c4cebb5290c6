import RollCall.Files.Tree
import RollCall.Proofs.Documentation

/-!
# RollCall.Proofs.Project — when a project is documented, and what its documentation says

Whether a project without examples is documented depends on two things only: that its package is
loaded, and that the target is an interface of the index. A package is loaded from any sources that
can be read and of which one belongs to it; faults in the sources play no part. Everything else about
the outcome is said by `Documentation.Faithful`.
-/

namespace RollCall

open RollCall.Source

/-! ## §A Loading -/

namespace Package

/-- The sources of a directory are these, all of them read as text. -/
def ReadsAs (disk : Disk Id) (directory : String) (sources : List (String × String)) : Prop :=
  ∃ entries, (disk.list directory).run = .ok entries ∧
    (readSources disk ((sourceNames entries).map (Path.join directory))).run = .ok sources

/-- Sources make a package as soon as one of them names it. -/
theorem ofSources_isOk (directory package : String) (sources : List (String × String)) :
    (∃ p, ofSources directory package sources = .ok p) ↔
      ∃ source ∈ sources, (File.ofSource source.2).package = some package := by
  let all : List PackageFile := sources.map fun source => ⟨source.1, File.ofSource source.2⟩
  let files := all.filter fun f => f.file.package == some package
  have hsources : ofSources directory package sources =
      if files.isEmpty then .error ⟨package, directory⟩ else .ok ⟨files⟩ := rfl
  have hfiles : files.isEmpty = true ↔
      ¬∃ source ∈ sources, (File.ofSource source.2).package = some package := by
    rw [List.isEmpty_iff, List.filter_eq_nil_iff]
    simp only [all, List.forall_mem_map, beq_iff_eq, not_exists, not_and]
  rw [hsources]
  by_cases hempty : files.isEmpty = true
  · rw [if_pos hempty]
    refine ⟨?_, fun hex => absurd hex (hfiles.mp hempty)⟩
    rintro ⟨p, hp⟩
    cases hp
  · rw [if_neg hempty]
    exact ⟨fun _ => not_not.mp fun hno => hempty (hfiles.mpr hno), fun _ => ⟨⟨files⟩, rfl⟩⟩

/-- Loading by its stages: the directory is listed, the sources are read, the package is picked. -/
theorem load_run (disk : Disk Id) (directory package : String) :
    (load disk directory package).run =
      match (disk.list directory).run with
      | .error fault => .error (.unreadable directory fault)
      | .ok entries =>
        match (readSources disk ((sourceNames entries).map (Path.join directory))).run with
        | .error e => .error e
        | .ok sources => (ofSources directory package sources).mapError .missing := rfl

theorem load_eq_ofSources {disk : Disk Id} {directory : String} {sources : List (String × String)}
    (h : ReadsAs disk directory sources) (package : String) :
    (load disk directory package).run =
      (ofSources directory package sources).mapError LoadError.missing := by
  obtain ⟨entries, hentries, hsources⟩ := h
  rw [load_run]
  simp only [hentries, hsources]

theorem readsAs_of_load {disk : Disk Id} {directory package : String} {p : Package}
    (h : (load disk directory package).run = .ok p) : ∃ sources, ReadsAs disk directory sources := by
  rw [load_run] at h
  cases hentries : (disk.list directory).run with
  | error fault =>
      simp only [hentries] at h
      cases h
  | ok entries =>
      simp only [hentries] at h
      cases hsources : (readSources disk
          ((sourceNames entries).map (Path.join directory))).run with
      | error e =>
          simp only [hsources] at h
          cases h
      | ok sources => exact ⟨sources, entries, hentries, hsources⟩

/-- A package is loaded where the sources can be read and one of them names it. -/
theorem load_isOk (disk : Disk Id) (directory package : String) :
    (∃ p, (load disk directory package).run = .ok p) ↔
      ∃ sources, ReadsAs disk directory sources ∧
        ∃ source ∈ sources, (File.ofSource source.2).package = some package := by
  have hload : ∀ sources p, ReadsAs disk directory sources →
      ((load disk directory package).run = .ok p ↔ ofSources directory package sources = .ok p) := by
    intro sources p hreads
    rw [load_eq_ofSources hreads]
    exact Documentation.except_mapError_eq_ok _ _ _
  constructor
  · rintro ⟨p, hp⟩
    obtain ⟨sources, hreads⟩ := readsAs_of_load hp
    exact ⟨sources, hreads, (ofSources_isOk _ _ _).mp ⟨p, (hload sources p hreads).mp hp⟩⟩
  · rintro ⟨sources, hreads, hex⟩
    obtain ⟨p, hp⟩ := (ofSources_isOk directory package sources).mpr hex
    exact ⟨p, (hload sources p hreads).mpr hp⟩

end Package

/-! ## §B Documenting -/

namespace Project

/-- The package that the settings name, loaded from the project. -/
def loaded (disk : Disk Id) (root : String) (settings : Settings) : Except LoadError Package :=
  (Package.load disk (sourceDirectory root settings) settings.target.package).run

/-- The documentation of a project, apart from what was noticed on the way. -/
def outcome (disk : Disk Id) (root : String) (settings : Settings) (examples : Bool) :
    Except ProjectError Documentation :=
  (document disk root settings examples).run.1

theorem outcome_eq (disk : Disk Id) (root : String) (settings : Settings) (examples : Bool) :
    outcome disk root settings examples =
      match loaded disk root settings with
      | .error e => .error (.load (sourceDirectory root settings) e)
      | .ok p => (Documentation.ofPackage p settings examples).mapError .documentation := by
  rw [outcome, loaded]
  show Prod.fst (match (Package.load disk (sourceDirectory root settings)
    settings.target.package).run with
    | .error e => _
    | .ok p => _) = _
  cases (Package.load disk (sourceDirectory root settings) settings.target.package).run <;> rfl

theorem outcome_ok_iff (disk : Disk Id) (root : String) (settings : Settings) (examples : Bool)
    (docs : Documentation) :
    outcome disk root settings examples = .ok docs ↔
      ∃ p, loaded disk root settings = .ok p ∧
        Documentation.ofPackage p settings examples = .ok docs := by
  rw [outcome_eq]
  cases loaded disk root settings with
  | error e => simp
  | ok p => simp [Documentation.except_mapError_eq_ok]

/-- A project is documented without examples exactly when its package is loaded, which takes sources
that can be read and of which one names the package, and the target is an interface of the index. The
outcome, with examples or without, says of the interface what the package says. Examples are all
there or all absent, and change nothing else. -/
theorem outcome_faithful (disk : Disk Id) (root : String) (settings : Settings) :
    ((∃ docs, outcome disk root settings false = .ok docs) ↔
        ∃ p, loaded disk root settings = .ok p ∧
          p.index.shape? settings.target.interface ≠ none) ∧
      ((∃ p, loaded disk root settings = .ok p) ↔
        ∃ sources, Package.ReadsAs disk (sourceDirectory root settings) sources ∧
          ∃ source ∈ sources,
            (File.ofSource source.2).package = some settings.target.package) ∧
      (∀ examples docs, outcome disk root settings examples = .ok docs →
        ∃ p, loaded disk root settings = .ok p ∧ Documentation.Faithful p settings docs) ∧
      (∀ docs, outcome disk root settings true = .ok docs →
        outcome disk root settings false =
            .ok { docs with groups := docs.groups.map Group.bare } ∧
          ∀ m ∈ Group.allMethods docs.groups, m.Illustrated) ∧
      ∀ docs, outcome disk root settings false = .ok docs →
        ∀ m ∈ Group.allMethods docs.groups,
          m.inputExample = none ∧ m.responseExample = none := by
  refine ⟨?_, Package.load_isOk disk _ _, ?_, ?_, ?_⟩
  · constructor
    · rintro ⟨docs, h⟩
      obtain ⟨p, hp, hdocs⟩ := (outcome_ok_iff ..).mp h
      exact ⟨p, hp, (Documentation.ofPackage_false_isOk p settings).mp ⟨docs, hdocs⟩⟩
    · rintro ⟨p, hp, hsome⟩
      obtain ⟨docs, hdocs⟩ := (Documentation.ofPackage_false_isOk p settings).mpr hsome
      exact ⟨docs, (outcome_ok_iff ..).mpr ⟨p, hp, hdocs⟩⟩
  · intro examples docs h
    obtain ⟨p, hp, hdocs⟩ := (outcome_ok_iff ..).mp h
    exact ⟨p, hp, Documentation.faithful_of_ok hdocs⟩
  · intro docs h
    obtain ⟨p, hp, hdocs⟩ := (outcome_ok_iff ..).mp h
    obtain ⟨hplain, hshown⟩ := Documentation.ofPackage_true hdocs
    exact ⟨(outcome_ok_iff ..).mpr ⟨p, hp, hplain⟩, hshown⟩
  · intro docs h
    obtain ⟨p, hp, hdocs⟩ := (outcome_ok_iff ..).mp h
    exact Documentation.ofPackage_false hdocs

/-- A project of one file, with an interface that embeds another. -/
def sample : FileTree :=
  .folder [("p", .folder [("a.go", .file (String.toUTF8
    "package api\ntype C interface \x7b\nV() bool\n\x7d\ntype A interface \x7b\nC\n\x7d\n"))])]

/-- Settings for the outer interface of the sample. -/
def sampleSettings : Settings := ⟨⟨"A", "api", "."⟩, ["V"], []⟩

/-- The sample is documented with examples and without. -/
theorem outcome_faithful_bothWays :
    ∃ docs, outcome sample.disk "p" sampleSettings true = .ok docs ∧
      (∃ p, loaded sample.disk "p" sampleSettings = .ok p ∧
        Documentation.Faithful p sampleSettings docs) ∧
      outcome sample.disk "p" sampleSettings false =
        .ok { docs with groups := docs.groups.map Group.bare } := by
  have hok : (outcome sample.disk "p" sampleSettings true).isOk = true := by decide +kernel
  obtain ⟨-, -, hfaithful, hexamples, -⟩ := outcome_faithful sample.disk "p" sampleSettings
  cases houtcome : outcome sample.disk "p" sampleSettings true with
  | error e =>
      rw [houtcome] at hok
      cases hok
  | ok docs => exact ⟨docs, rfl, hfaithful true docs houtcome, (hexamples docs houtcome).1⟩

end Project

end RollCall
