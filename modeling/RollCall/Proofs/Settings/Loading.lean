import RollCall.Proofs.Settings.Layers
import RollCall.Proofs.Toml.QuotedKeys

/-!
# RollCall.Proofs.Settings.Loading — the settings of a run, or the blank field that forbids it

Loading reads the merged layers and then looks for a blank field of the target. Reading fails only
because of a type, so that a blank field is the outcome exactly where everything was read
(`load_eq_blank_iff`), and the field is the first one in the order of the check. `load_layered` says
this together with where the settings come from.
-/

namespace RollCall.Settings

open RollCall.Documentation (except_bind_eq_ok)

variable {environment : List (String × String)} {file : Setting}

/-! ## §A The check for blank fields -/

/-- The fields of a target that must not be blank, in the order of the check. -/
def checkedFields (t : Target) : List (String × String) :=
  [("target.interface", t.interface), ("target.package", t.package),
   ("target.api_dir", t.directory)]

/-- The first field of a target that is blank. -/
def firstBlank? (t : Target) : Option String :=
  ((checkedFields t).find? fun field => Text.isVoid field.2).map Prod.fst

/-- The check fails for the first blank field. -/
theorem checkTarget_eq (t : Target) :
    checkTarget t = (firstBlank? t).elim (.ok ()) fun field => .error (.blank field) := by
  unfold checkTarget firstBlank? checkedFields
  simp only [List.find?_cons, List.find?_nil]
  cases Text.isVoid t.interface
  · cases Text.isVoid t.package
    · cases Text.isVoid t.directory <;> rfl
    · rfl
  · rfl

/-- No field is blank. -/
theorem firstBlank?_eq_none_iff (t : Target) :
    firstBlank? t = none ↔ Text.isVoid t.interface = false ∧ Text.isVoid t.package = false ∧
      Text.isVoid t.directory = false := by
  rw [firstBlank?, Option.map_eq_none_iff, List.find?_eq_none]
  simp [checkedFields]

/-! ## §B What reading can fail for -/

/-- **Types only.** A reader may fail because of a type, but not because a field is blank. -/
def TypesOnly {α : Type} (outcome : Read α) : Prop := ∀ field, outcome ≠ .error (.blank field)

theorem typesOnly_ok {α : Type} (a : α) : TypesOnly (.ok a) := nofun

theorem typesOnly_wrongType {α : Type} (path : List String) (v : Setting) (expected : Expected) :
    TypesOnly (.error (.wrongType path v expected) : Read α) := nofun

/-- Two readers in turn fail for nothing but types if neither of them does. -/
theorem TypesOnly.bind {α β : Type} {outcome : Read α} {next : α → Read β}
    (h : TypesOnly outcome) (hnext : ∀ a, TypesOnly (next a)) : TypesOnly (outcome >>= next) := by
  intro field
  cases outcome with
  | error e =>
      intro heq
      cases heq
      exact h field rfl
  | ok a => exact hnext a field

theorem readText_typesOnly (path : List String) (v : Setting) : TypesOnly (readText path v) := by
  cases v with
  | text s => exact typesOnly_ok s
  | _ => exact typesOnly_wrongType _ _ _

theorem readTexts_typesOnly (path : List String) (i : Nat) (items : List Setting) :
    TypesOnly (readTexts path i items) := by
  induction items generalizing i with
  | nil => exact typesOnly_ok _
  | cons v items ih =>
      refine (readText_typesOnly _ v).bind fun s => ?_
      exact (ih (i + 1)).bind fun rest => typesOnly_ok _

/-- A field that is missing is no failure, and one that is there can only have the wrong type. -/
theorem readField_typesOnly (path : List String) (entries : List (String × Setting))
    (name default : String) : TypesOnly (readField path entries name default) := by
  unfold readField
  split
  · exact readText_typesOnly _ _
  · exact typesOnly_ok _

theorem readItem_typesOnly (path : List String) (items : List Setting) (i : Nat)
    (default : String) : TypesOnly (readItem path items i default) := by
  unfold readItem
  split
  · exact readText_typesOnly _ _
  · exact typesOnly_ok _

theorem readTarget_typesOnly (path : List String) (v : Setting) :
    TypesOnly (readTarget path v) := by
  cases v with
  | table entries =>
      refine (readField_typesOnly _ _ _ _).bind fun directory => ?_
      refine (readField_typesOnly _ _ _ _).bind fun interface => ?_
      exact (readField_typesOnly _ _ _ _).bind fun package => typesOnly_ok _
  | list items =>
      refine (readItem_typesOnly _ _ _ _).bind fun interface => ?_
      refine (readItem_typesOnly _ _ _ _).bind fun package => ?_
      exact (readItem_typesOnly _ _ _ _).bind fun directory => typesOnly_ok _
  | _ => exact typesOnly_wrongType _ _ _

theorem readSubscriptions_typesOnly (path : List String) (v : Setting) :
    TypesOnly (readSubscriptions path v) := by
  cases v with
  | list items => exact readTexts_typesOnly path 0 items
  | _ => exact typesOnly_wrongType _ _ _

theorem readOutput_typesOnly (path : List String) (v : Setting) :
    TypesOnly (readOutput path v) := by
  cases v with
  | table entries =>
      simp only [readOutput]
      split
      · exact readSubscriptions_typesOnly _ _
      · exact typesOnly_ok _
  | list items =>
      simp only [readOutput]
      split
      · exact readSubscriptions_typesOnly _ _
      · exact typesOnly_ok _
  | _ => exact typesOnly_wrongType _ _ _

theorem readExamples_typesOnly (path : List String) (v : Setting) :
    TypesOnly (readExamples path v) := by
  cases v with
  | table entries => exact typesOnly_ok _
  | _ => exact typesOnly_wrongType _ _ _

/-- A section that is missing is no failure either. -/
theorem readSection_typesOnly {α : Type} {read : List String → Setting → Read α}
    (h : ∀ path v, TypesOnly (read path v)) (entries : List (String × Setting)) (name : String)
    (default : α) : TypesOnly (readSection entries name read default) := by
  unfold readSection
  split
  · exact h _ _
  · exact typesOnly_ok _

/-- Reading the merged layers never fails because of a blank field. -/
theorem ofLayers_typesOnly (v : Setting) : TypesOnly (ofLayers v) := by
  cases v with
  | table entries =>
      refine (readSection_typesOnly readExamples_typesOnly _ _ _).bind fun examples => ?_
      refine (readSection_typesOnly readOutput_typesOnly _ _ _).bind fun subscriptions => ?_
      exact (readSection_typesOnly readTarget_typesOnly _ _ _).bind fun target => typesOnly_ok _
  | _ => exact typesOnly_ok _

theorem documentLayer_typesOnly (document : Document) : TypesOnly (documentLayer document) := by
  cases document with
  | absent => exact typesOnly_ok _
  | garbled => exact nofun
  | text document =>
      rw [documentLayer]
      split
      · exact typesOnly_ok _
      · exact nofun

/-! ## §C Loading -/

/-- The layer of a file is in order, whether there is a file or not. -/
theorem documentLayer_ordered {document : Document} (h : documentLayer document = .ok file) :
    file.Ordered := by
  cases document with
  | absent =>
      cases h
      exact Setting.ordered_nil
  | garbled => cases h
  | text document =>
      rw [documentLayer] at h
      split at h
      · rename_i layer hread
        cases h
        exact Toml.read?_ordered hread
      · cases h

/-- Loading ends with the check of what the merged layers give. -/
theorem load_of_ofLayers {document : Document} (hfile : documentLayer document = .ok file)
    {c : Settings} (hc : ofLayers (layers file environment) = .ok c) :
    load document environment =
      (firstBlank? c.target).elim (.ok c) fun field => .error (.blank field) := by
  unfold load
  rw [hfile]
  show (ofLayers (layers file environment) >>= fun c =>
    checkTarget c.target >>= fun _ => pure c) = _
  rw [hc]
  show (checkTarget c.target >>= fun _ => pure c) = _
  rw [checkTarget_eq]
  cases firstBlank? c.target <;> rfl

/-- Whatever is loaded was read from the merged layers and has no blank field. -/
theorem load_eq_ok {document : Document} {c : Settings}
    (h : load document environment = .ok c) :
    ∃ file, documentLayer document = .ok file ∧ ofLayers (layers file environment) = .ok c ∧
      firstBlank? c.target = none := by
  obtain ⟨file, hfile, h⟩ := except_bind_eq_ok h
  obtain ⟨settings, hsettings, h⟩ := except_bind_eq_ok h
  obtain ⟨_, hcheck, h⟩ := except_bind_eq_ok h
  cases h
  refine ⟨file, hfile, hsettings, ?_⟩
  rw [checkTarget_eq] at hcheck
  cases hblank : firstBlank? c.target with
  | none => rfl
  | some field =>
      rw [hblank] at hcheck
      cases hcheck

/-- Loading ends at a blank field exactly where all was read and this is the first blank one. -/
theorem load_eq_blank_iff {document : Document} {field : String} :
    load document environment = .error (.blank field) ↔
      ∃ file c, documentLayer document = .ok file ∧ ofLayers (layers file environment) = .ok c ∧
        firstBlank? c.target = some field := by
  constructor
  · intro h
    -- of the three stages only the last one can end at a blank field
    cases hfile : documentLayer document with
    | error e =>
        rw [load, hfile] at h
        cases h
        exact absurd hfile (documentLayer_typesOnly document field)
    | ok file =>
        cases hc : ofLayers (layers file environment) with
        | error e =>
            rw [load, hfile] at h
            change (ofLayers (layers file environment) >>= _) = _ at h
            rw [hc] at h
            cases h
            exact absurd hc (ofLayers_typesOnly _ field)
        | ok c =>
            rw [load_of_ofLayers hfile hc] at h
            refine ⟨file, c, rfl, hc, ?_⟩
            cases hblank : firstBlank? c.target with
            | none => rw [hblank] at h; cases h
            | some first => rw [hblank] at h; cases h; rfl
  · rintro ⟨file, c, hfile, hc, hblank⟩
    rw [load_of_ofLayers hfile hc, hblank]
    rfl

/-- Where each setting of a run comes from, and which blank field keeps a run from having any. -/
theorem load_layered (document : Document) (environment : List (String × String))
    (hapart : Apart environment) :
    (∀ c, load document environment = .ok c →
      ∃ file, documentLayer document = .ok file ∧ Layered environment file c ∧
        Text.isVoid c.target.interface = false ∧ Text.isVoid c.target.package = false ∧
        Text.isVoid c.target.directory = false) ∧
    (∀ field, load document environment = .error (.blank field) ↔
      ∃ file c, documentLayer document = .ok file ∧ ofLayers (layers file environment) = .ok c ∧
        Layered environment file c ∧ firstBlank? c.target = some field) ∧
    (∀ lines : List Toml.Line, (∀ line ∈ lines, line.Written) → (lines.map Toml.Line.key).Nodup →
      documentLayer (.text (Toml.examplesText lines)) = .ok (.table [("examples", .table
        (Dictionary.ofList (lines.map fun line => (line.key, line.value))))])) := by
  refine ⟨?_, ?_, ?_⟩
  · intro c h
    obtain ⟨file, hfile, hc, hblank⟩ := load_eq_ok h
    exact ⟨file, hfile, layered_of_ofLayers hapart (documentLayer_ordered hfile) hc,
      (firstBlank?_eq_none_iff c.target).mp hblank⟩
  · intro field
    rw [load_eq_blank_iff]
    constructor
    · rintro ⟨file, c, hfile, hc, hblank⟩
      have hlayered := layered_of_ofLayers hapart (documentLayer_ordered hfile) hc
      exact ⟨file, c, hfile, hc, hlayered, hblank⟩
    · rintro ⟨file, c, hfile, hc, -, hblank⟩
      exact ⟨file, c, hfile, hc, hblank⟩
  · intro lines hlines hkeys
    rw [documentLayer, Toml.read?_examplesText hlines hkeys]

/-- What a run has settled, in a form that can be compared. -/
def summary (c : Settings) : Target × List String × String :=
  (c.target, c.subscriptions, (Json.obj c.examples).compact)

theorem exists_ok_of_map {α β : Type} {outcome : Read α} {view : α → β} {expected : β}
    (h : outcome.toOption.map view = some expected) :
    ∃ a, outcome = .ok a ∧ view a = expected := by
  cases outcome with
  | error e => cases h
  | ok a => exact ⟨a, rfl, Option.some.inj h⟩

/-- A file that names the package and the directory, and has an example under a spelling with a
point and a table of examples. -/
def mixedDocument : String :=
  "[target]\npackage = \"node\"\napi_dir = \"src\"\n[examples]\n\"abi.Epoch\" = 7\n" ++
    "tag = \x7ba = 1\x7d\n"

/-- Variables that set the package, the whole section about the output as a list, and one more entry
of the table of examples. The last one sets nothing. -/
def mixedEnvironment : List (String × String) :=
  [("SCHEMAGEN_TARGET__PACKAGE", "lotus"), ("SCHEMAGEN_OUTPUT", "[[Notify]]"),
   ("schemagen_examples__tag__b", "2"), ("PATH", "/bin")]

/-- Lines with two spellings of types as keys. -/
def spelledLines : List Toml.Line :=
  [⟨"abi.Epoch", "7".toList, .signed 7⟩, ⟨"map[string][]byte", "\"AQ==\"".toList, .text "AQ=="⟩]

theorem spelledLines_written : ∀ line ∈ spelledLines, line.Written := by
  have hepoch : Toml.Literal "7".toList (.signed 7) := by
    intro fuel rest h
    obtain ⟨fuel, rfl⟩ := Nat.exists_eq_add_of_lt h
    rfl
  have hbytes : Toml.Literal "\"AQ==\"".toList (.text "AQ==") := by
    intro fuel rest h
    obtain ⟨fuel, rfl⟩ := Nat.exists_eq_add_of_lt h
    rfl
  unfold spelledLines
  simp only [List.forall_mem_cons]
  refine ⟨⟨?_, hepoch⟩, ⟨?_, hbytes⟩, nofun⟩
  · simp [Toml.Quotable, Toml.isPlain]
  · simp [Toml.Quotable, Toml.isPlain]

theorem load_layered_mixed :
    Apart mixedEnvironment ∧
    (∃ c, load (.text mixedDocument) mixedEnvironment = .ok c ∧
      summary c = (⟨"StorageMiner", "lotus", "src"⟩, ["Notify"],
        "\x7b\"abi.Epoch\":7,\"tag\":\x7b\"a\":1,\"b\":2\x7d\x7d") ∧
      ∃ file, documentLayer (.text mixedDocument) = .ok file ∧ Layered mixedEnvironment file c) ∧
    documentLayer (.text (Toml.examplesText spelledLines)) = .ok (.table [("examples", .table
      [("abi.Epoch", .signed 7), ("map[string][]byte", .text "AQ==")])]) := by
  have hapart : Apart mixedEnvironment := by
    unfold Apart
    decide +kernel
  have hrun : (load (.text mixedDocument) mixedEnvironment).toOption.map summary =
      some (⟨"StorageMiner", "lotus", "src"⟩, ["Notify"],
        "\x7b\"abi.Epoch\":7,\"tag\":\x7b\"a\":1,\"b\":2\x7d\x7d") := by
    decide +kernel
  obtain ⟨c, hc, hsummary⟩ := exists_ok_of_map hrun
  obtain ⟨hok, -, hlines⟩ := load_layered (.text mixedDocument) mixedEnvironment hapart
  obtain ⟨file, hfile, hlayered, -⟩ := hok c hc
  exact ⟨hapart, ⟨c, hc, hsummary, file, hfile, hlayered⟩,
    hlines spelledLines spelledLines_written (by decide)⟩

/-- A file that names the package. -/
def lotusDocument : String := "[target]\npackage = \"lotus\"\n"

/-- The text that stands at a path. -/
def textAt? (path : List String) (v : Setting) : Option String :=
  match v.sight path with
  | .plain (.text s) => some s
  | _ => none

theorem sight_of_textAt? {path : List String} {v : Setting} {s : String}
    (h : textAt? path v = some s) : v.sight path = .plain (.text s) := by
  unfold textAt? at h
  split at h
  · rename_i hsight
    cases h
    exact hsight
  · cases h

/-- A list is the whole section: the file names the package, no variable does, and still the run has
the default. -/
theorem load_listed_target :
    Apart [("SCHEMAGEN_TARGET", "[]")] ∧
    ∃ file c, documentLayer (.text lotusDocument) = .ok file ∧
      load (.text lotusDocument) [("SCHEMAGEN_TARGET", "[]")] = .ok c ∧
      file.sight ["target", "package"] = .plain (.text "lotus") ∧
      (environmentLayer [("SCHEMAGEN_TARGET", "[]")]).sight ["target", "package"] = .absent ∧
      c.target.package ≠ "lotus" := by
  have hread : (documentLayer (.text lotusDocument)).toOption.map (textAt? ["target", "package"]) =
      some (some "lotus") := by
    decide +kernel
  have hrun : (load (.text lotusDocument) [("SCHEMAGEN_TARGET", "[]")]).toOption.map summary =
      some (defaultTarget, ["ChainNotify"], "\x7b\x7d") := by
    decide +kernel
  have hpath : variablePath? "SCHEMAGEN_TARGET" = some ["target"] := by decide +kernel
  have hvalue : variableValue "[]" = .list [] := rfl
  obtain ⟨file, hfile, htext⟩ := exists_ok_of_map hread
  obtain ⟨c, hc, hsummary⟩ := exists_ok_of_map hrun
  have htarget : c.target = defaultTarget := congrArg Prod.fst hsummary
  refine ⟨by unfold Apart; decide +kernel, file, c, hfile, hc, sight_of_textAt? htext, ?_, ?_⟩
  · -- the variable sets the section, and below a list nothing stands
    simp only [environmentLayer, List.foldl_cons, List.foldl_nil, hpath, hvalue]
    rfl
  · rw [htarget]
    decide

end RollCall.Settings
