import RollCall.Proofs.Documentation
import RollCall.Proofs.Settings.Variables
import RollCall.Settings.Load

/-!
# RollCall.Proofs.Settings.Layers — where each setting of a run comes from

`heard` is what the environment and the settings file tell of a path together, the environment
first. A field is what is heard of its path, and its default where nothing is; the example values
are what is heard of all paths below their section. A section may be given as a list, and then it is
the whole section: its fields are the items in order, and a field without an item has its default,
whatever a lower layer has under its name (`fieldOf`).

`Layered` puts this together for all settings of a run, and holds of whatever is read from the
merged layers (`layered_of_ofLayers`).
-/

namespace RollCall.Settings

open RollCall.Setting (Standing Ordered)
open RollCall.Documentation (except_bind_eq_ok)

/-! ## §A What is heard of a path -/

variable {environment : List (String × String)} {file : Setting}

/-- What the layers over the defaults tell of a path, the environment first. -/
def heard (environment : List (String × String)) (file : Setting) (path : List String) : Standing :=
  ((told environment path).or (file.tells path)).getD .absent

/-- What stands where a value is looked for. -/
def found (v : Option Setting) : Standing := v.elim .absent Setting.standing

/-- What is heard of a field. In a section that is a list the field is known by its place. -/
def fieldOf (environment : List (String × String)) (file : Setting) (part : String) (place : Nat)
    (name : String) : Standing :=
  match heard environment file [part] with
  | .plain (.list items) => found items[place]?
  | _ => heard environment file [part, name]

/-- **Settling.** A plain value settles a field, and its default does where nothing stands. -/
inductive Settles : Standing → Setting → Setting → Prop where
  | given (v default : Setting) : Settles (.plain v) default v
  | unsaid (default : Setting) : Settles .absent default default

/-- **Layered settings.** Each field is settled by what is heard of it, and the example values are
the one table in order that shows at each path what is heard there. -/
structure Layered (environment : List (String × String)) (file : Setting) (c : Settings) :
    Prop where
  interface : Settles (fieldOf environment file "target" 0 "interface")
    (.text defaultTarget.interface) (.text c.target.interface)
  package : Settles (fieldOf environment file "target" 1 "package")
    (.text defaultTarget.package) (.text c.target.package)
  directory : Settles (fieldOf environment file "target" 2 "api_dir")
    (.text defaultTarget.directory) (.text c.target.directory)
  subscriptions : Settles (fieldOf environment file "output" 0 "subscription_methods")
    (.list (defaultSubscriptions.map .text)) (.list (c.subscriptions.map .text))
  examples : ∃! entries : List (String × Setting), Ordered (.table entries) ∧
    (∀ path, path ≠ [] →
      (Setting.table entries).sight path = heard environment file ("examples" :: path)) ∧
    c.examples = Setting.entriesToJson entries

/-- The three layers on top of each other. -/
def layers (file : Setting) (environment : List (String × String)) : Setting :=
  (defaultLayer.merge file).merge (environmentLayer environment)

theorem sight_layers (hapart : Apart environment) (hfile : file.Ordered) {path : List String}
    (hpath : path ≠ []) :
    (layers file environment).sight path =
      ((told environment path).or (file.tells path)).getD (defaultLayer.sight path) := by
  rw [layers, Setting.sight_merge (environmentLayer_ordered environment), Setting.sight_merge hfile,
    environmentLayer_tells hapart hpath]
  cases told environment path <;> rfl

theorem defaultLayer_ordered : defaultLayer.Ordered := by
  have htext : ∀ s, (Setting.text s).Ordered := fun _ => .plain nofun
  have htarget := ((Setting.ordered_nil.set "package" (htext defaultTarget.package)).set "interface"
    (htext defaultTarget.interface)).set "api_dir" (htext defaultTarget.directory)
  have hlist : (Setting.list (defaultSubscriptions.map .text)).Ordered := .plain nofun
  exact ((Setting.ordered_nil.set "target" htarget).set "output"
    (Setting.ordered_nil.set "subscription_methods" hlist)).set "examples" Setting.ordered_nil

theorem layers_ordered (hfile : file.Ordered) (environment : List (String × String)) :
    (layers file environment).Ordered :=
  (defaultLayer_ordered.merge hfile).merge (environmentLayer_ordered environment)

theorem exists_layers_table (file : Setting) (environment : List (String × String)) :
    ∃ entries, layers file environment = .table entries := by
  rw [← Setting.standing_eq_table_iff, layers, Setting.standing_merge, environmentLayer_standing]

/-! ## §B Reading the fields -/

theorem readText_ok {path : List String} {v : Setting} {s : String} (h : readText path v = .ok s) :
    v = .text s := by
  cases v <;> cases h
  rfl

theorem readTexts_ok {path : List String} {i : Nat} {items : List Setting} {texts : List String}
    (h : readTexts path i items = .ok texts) : items = texts.map .text := by
  induction items generalizing i texts with
  | nil =>
      cases h
      rfl
  | cons v items ih =>
      rw [readTexts] at h
      obtain ⟨s, hs, h⟩ := except_bind_eq_ok h
      obtain ⟨rest, hrest, h⟩ := except_bind_eq_ok h
      cases h
      rw [readText_ok hs, ih hrest, List.map_cons]

theorem readSubscriptions_ok {path : List String} {v : Setting} {texts : List String}
    (h : readSubscriptions path v = .ok texts) : v = .list (texts.map .text) := by
  cases v with
  | list items => rw [readTexts_ok h]
  | _ => cases h

/-- What is read where something stands, and the default where nothing does, is settled. -/
theorem settles_found {α : Type} {read : Setting → Read α} {written : α → Setting}
    (hread : ∀ {w a}, read w = .ok a → w = written a)
    (hplain : ∀ a, (written a).standing = .plain (written a))
    {v : Option Setting} {default result : α}
    (h : (match v with
      | some w => read w
      | none => .ok default) = .ok result) :
    Settles (found v) (written default) (written result) := by
  cases v with
  | none =>
      cases h
      exact .unsaid _
  | some w =>
      rw [hread h, found, Option.elim_some, hplain]
      exact .given _ _

theorem settles_text {path : List String} {v : Option Setting} {default s : String}
    (h : (match v with
      | some w => readText path w
      | none => .ok default) = .ok s) :
    Settles (found v) (.text default) (.text s) :=
  settles_found readText_ok (fun _ => rfl) h

/-- What stands for a field in a section, by place in a list and by name in anything else. -/
def fieldIn (v : Option Setting) (place : Nat) (name : String) : Standing :=
  match v with
  | some (.list items) => found items[place]?
  | v => found (v.bind (Setting.child name))

theorem readTarget_settles {entries : List (String × Setting)} {t : Target}
    (h : readSection entries "target" readTarget defaultTarget = .ok t) :
    Settles (fieldIn (Dictionary.get? "target" entries) 0 "interface")
        (.text defaultTarget.interface) (.text t.interface) ∧
      Settles (fieldIn (Dictionary.get? "target" entries) 1 "package")
        (.text defaultTarget.package) (.text t.package) ∧
      Settles (fieldIn (Dictionary.get? "target" entries) 2 "api_dir")
        (.text defaultTarget.directory) (.text t.directory) := by
  rw [readSection] at h
  cases hsection : Dictionary.get? "target" entries with
  | none =>
      rw [hsection] at h
      cases h
      exact ⟨.unsaid _, .unsaid _, .unsaid _⟩
  | some v =>
      rw [hsection] at h
      cases v with
      | table fields =>
          obtain ⟨directory, hdirectory, h⟩ := except_bind_eq_ok h
          obtain ⟨interface, hinterface, h⟩ := except_bind_eq_ok h
          obtain ⟨package, hpackage, h⟩ := except_bind_eq_ok h
          cases h
          exact ⟨settles_text hinterface, settles_text hpackage, settles_text hdirectory⟩
      | list items =>
          obtain ⟨interface, hinterface, h⟩ := except_bind_eq_ok h
          obtain ⟨package, hpackage, h⟩ := except_bind_eq_ok h
          obtain ⟨directory, hdirectory, h⟩ := except_bind_eq_ok h
          cases h
          exact ⟨settles_text hinterface, settles_text hpackage, settles_text hdirectory⟩
      | _ => cases h

theorem readOutput_settles {entries : List (String × Setting)} {texts : List String}
    (h : readSection entries "output" readOutput defaultSubscriptions = .ok texts) :
    Settles (fieldIn (Dictionary.get? "output" entries) 0 "subscription_methods")
      (.list (defaultSubscriptions.map .text)) (.list (texts.map .text)) := by
  rw [readSection] at h
  cases hsection : Dictionary.get? "output" entries with
  | none =>
      rw [hsection] at h
      cases h
      exact .unsaid _
  | some v =>
      rw [hsection] at h
      cases v with
      | table fields => exact settles_found readSubscriptions_ok (fun _ => rfl) h
      | list items => exact settles_found readSubscriptions_ok (fun _ => rfl) h
      | _ => cases h

/-- The example values are the table under their section, or an empty one. -/
theorem exists_examples {entries : List (String × Setting)} (hordered : Ordered (.table entries))
    {examples : Dictionary Json}
    (h : readSection entries "examples" readExamples [] = .ok examples) :
    ∃ table : List (String × Setting), Ordered (.table table) ∧
      (∀ path, path ≠ [] → (Setting.table table).sight path =
        (Setting.table entries).sight ("examples" :: path)) ∧
      examples = Setting.entriesToJson table := by
  rw [readSection] at h
  cases hsection : Dictionary.get? "examples" entries with
  | none =>
      rw [hsection] at h
      cases h
      refine ⟨[], Setting.ordered_nil, ?_, rfl⟩
      intro path hpath
      obtain ⟨name, rest, rfl⟩ := List.exists_cons_of_ne_nil hpath
      rw [Setting.sight_cons "examples", Setting.child, hsection]
      rfl
  | some v =>
      rw [hsection] at h
      cases v with
      | table table =>
          cases h
          refine ⟨table, hordered.child hsection, ?_, rfl⟩
          intro path hpath
          rw [Setting.sight_cons "examples", Setting.child, hsection]
          rfl
      | _ => cases h

/-! ## §C From the merged layers to what is heard -/

theorem found_child (v : Setting) (name : String) : found (v.child name) = v.sight [name] := by
  rw [Setting.sight_cons]
  cases v.child name <;> simp [found]

theorem found_bind_child (v : Setting) (part name : String) :
    found ((v.child part).bind (Setting.child name)) = v.sight [part, name] := by
  rw [Setting.sight_cons]
  cases v.child part with
  | none => rfl
  | some w => exact found_child w name

theorem found_eq_list_iff {v : Option Setting} {items : List Setting} :
    found v = .plain (.list items) ↔ v = some (.list items) := by
  cases v with
  | none => simp [found]
  | some w =>
      refine ⟨fun h => congrArg some (Setting.standing_eq_plain h), ?_⟩
      rintro ⟨⟩
      rfl

theorem getD_eq_plain_iff {told : Option Standing} {other : Standing} {v : Setting}
    (h : other ≠ .plain v) : told.getD other = .plain v ↔ told = some (.plain v) := by
  cases told <;> simp [h]

/-- A default that stands among the layers settles a field as one that is given last does. -/
theorem Settles.of_getD {told : Option Standing} {default v : Setting}
    (h : Settles (told.getD (.plain default)) default v) :
    Settles (told.getD .absent) default v := by
  cases told with
  | none =>
      cases h with
      | given => exact .unsaid _
  | some standing => exact h

/-- A field in its section of the merged layers is what is heard of it. -/
theorem settles_fieldOf (hapart : Apart environment) (hfile : file.Ordered) {part name : String}
    {place : Nat} {default v : Setting} (hpart : defaultLayer.sight [part] = .table)
    (hname : defaultLayer.sight [part, name] = .plain default)
    (h : Settles (fieldIn ((layers file environment).child part) place name) default v) :
    Settles (fieldOf environment file part place name) default v := by
  have hsection := sight_layers hapart hfile (List.cons_ne_nil part [])
  rw [hpart, ← found_child] at hsection
  have hfield := sight_layers hapart hfile (List.cons_ne_nil part [name])
  rw [hname, ← found_bind_child] at hfield
  have hlist : ∀ items, heard environment file [part] = .plain (.list items) ↔
      (layers file environment).child part = some (.list items) := by
    intro items
    have habsent : Standing.absent ≠ .plain (.list items) := nofun
    have htable : Standing.table ≠ .plain (.list items) := nofun
    rw [← found_eq_list_iff, hsection, heard, getD_eq_plain_iff habsent, getD_eq_plain_iff htable]
  by_cases hlisted : ∃ items, heard environment file [part] = .plain (.list items)
  · -- nothing covers a list, so the section that was read is the list that is heard
    obtain ⟨items, hitems⟩ := hlisted
    rw [(hlist items).mp hitems] at h
    rw [fieldOf, hitems]
    exact h
  · -- in any other section the field goes by its name
    have hin : fieldIn ((layers file environment).child part) place name =
        found (((layers file environment).child part).bind (Setting.child name)) := by
      unfold fieldIn
      split
      · rename_i items heq
        exact absurd ⟨items, (hlist items).mpr heq⟩ hlisted
      · rfl
    have hof : fieldOf environment file part place name = heard environment file [part, name] := by
      unfold fieldOf
      split
      · rename_i items heq
        exact absurd ⟨items, heq⟩ hlisted
      · rfl
    rw [hin, hfield] at h
    rw [hof]
    exact h.of_getD

theorem defaultLayer_examples {path : List String} (hpath : path ≠ []) :
    defaultLayer.sight ("examples" :: path) = .absent := by
  obtain ⟨name, rest, rfl⟩ := List.exists_cons_of_ne_nil hpath
  rfl

/-- Tables in order that show the same at every path below them are the same. -/
theorem entries_eq_of_sight {entries others : List (String × Setting)}
    (hentries : Ordered (.table entries)) (hothers : Ordered (.table others))
    (h : ∀ path, path ≠ [] →
      (Setting.table entries).sight path = (Setting.table others).sight path) :
    entries = others := by
  have hext : Setting.table entries = .table others := by
    refine hentries.ext hothers fun path => ?_
    cases path with
    | nil => simp [Setting.standing]
    | cons name path => exact h _ (List.cons_ne_nil name path)
  exact Setting.table.inj hext

/-- The example values of the merged layers show what is heard of each path. -/
theorem examples_heard (hapart : Apart environment) (hfile : file.Ordered)
    {entries : List (String × Setting)} (hentries : layers file environment = .table entries)
    {examples : Dictionary Json}
    (h : readSection entries "examples" readExamples [] = .ok examples) :
    ∃! table : List (String × Setting), Ordered (.table table) ∧
      (∀ path, path ≠ [] →
        (Setting.table table).sight path = heard environment file ("examples" :: path)) ∧
      examples = Setting.entriesToJson table := by
  have hheard : ∀ path, path ≠ [] → (Setting.table entries).sight ("examples" :: path) =
      heard environment file ("examples" :: path) := by
    intro path hpath
    rw [← hentries, sight_layers hapart hfile (List.cons_ne_nil _ path),
      defaultLayer_examples hpath]
    rfl
  have hordered : Ordered (.table entries) := hentries ▸ layers_ordered hfile environment
  obtain ⟨table, htable, hsight, hexamples⟩ := exists_examples hordered h
  have hshows : ∀ path, path ≠ [] →
      (Setting.table table).sight path = heard environment file ("examples" :: path) :=
    fun path hpath => (hsight path hpath).trans (hheard path hpath)
  refine ⟨table, ⟨htable, hshows, hexamples⟩, ?_⟩
  rintro other ⟨hother, hothersight, -⟩
  exact entries_eq_of_sight hother htable fun path hpath =>
    (hothersight path hpath).trans (hshows path hpath).symm

/-- All settings read from the merged layers are what is heard of them. -/
theorem layered_of_ofLayers (hapart : Apart environment) (hfile : file.Ordered) {c : Settings}
    (h : ofLayers (layers file environment) = .ok c) : Layered environment file c := by
  obtain ⟨entries, hentries⟩ := exists_layers_table file environment
  rw [hentries, ofLayers] at h
  obtain ⟨examples, hexamples, h⟩ := except_bind_eq_ok h
  obtain ⟨subscriptions, hsubscriptions, h⟩ := except_bind_eq_ok h
  obtain ⟨target, htarget, h⟩ := except_bind_eq_ok h
  cases h
  have hchild : ∀ part, Dictionary.get? part entries = (layers file environment).child part := by
    intro part
    rw [hentries, Setting.child]
  obtain ⟨hinterface, hpackage, hdirectory⟩ := readTarget_settles htarget
  have houtput := readOutput_settles hsubscriptions
  rw [hchild] at hinterface hpackage hdirectory houtput
  exact {
    interface := settles_fieldOf hapart hfile rfl rfl hinterface
    package := settles_fieldOf hapart hfile rfl rfl hpackage
    directory := settles_fieldOf hapart hfile rfl rfl hdirectory
    subscriptions := settles_fieldOf hapart hfile rfl rfl houtput
    examples := examples_heard hapart hfile hentries hexamples }

end RollCall.Settings
