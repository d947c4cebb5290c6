import RollCall.Json.Writer
import RollCall.Settings.Environment
import RollCall.Text.Quoted

/-!
# RollCall.Settings.Load — the settings of a run

Settings are put together from three layers: the defaults, the settings file of the project, and the
environment. What comes out is read entry by entry in the order of the names, and the first entry of
a wrong type is the error. A list may stand for a section, its items being the fields in order. Last
of all, no field of the target may be blank.
-/

namespace RollCall

/-- What to document: the interface, its package, and the directory of the sources. -/
structure Target where
  interface : String
  package : String
  directory : String
deriving DecidableEq, Repr

/-- The settings of a run. -/
structure Settings where
  target : Target
  /-- The methods that open a subscription. -/
  subscriptions : List String
  /-- Example values by the spelling of their type. -/
  examples : Dictionary Json

/-- What an entry has to be. -/
inductive Expected where
  | text
  | sequence
  | map
  | target
  | output
deriving DecidableEq, Repr

/-- Why there are no settings. -/
inductive SettingsError where
  /-- The settings file is no document. -/
  | unreadable
  /-- An entry is of the wrong type. -/
  | wrongType (path : List String) (found : Setting) (expected : Expected)
  /-- A field of the target is blank. -/
  | blank (field : String)

namespace Settings

/-! ## §A Wording -/

/-- Floating point numbers in messages are written with all their digits and no exponent. -/
def messageNumbers : Layout := ⟨none, false, false⟩

/-- A floating point value in a message. -/
def describeReal : Real → String
  | .finite x => messageNumbers.write x
  | .infinite negative => if negative then "-inf" else "inf"
  | .notANumber => "NaN"

/-- Text between the marks of a literal. -/
def marked (text : String) : String := "\x60" ++ text ++ "\x60"

/-- What a value is, for messages. -/
def describe : Setting → String
  | .text s => "string " ++ Text.quoted '"' s.toList
  | .bool b => if b then "bool true" else "bool false"
  | .signed n => "signed int " ++ marked (String.ofList (Json.decimal n))
  | .unsigned n => "unsigned int " ++ marked (String.ofList (Json.decimal n))
  | .real x => "float " ++ marked (describeReal x)
  | .list _ => "sequence"
  | .table _ => "map"

end Settings

/-- What was expected, for messages. -/
def Expected.describe : Expected → String
  | .text => "a string"
  | .sequence => "a sequence"
  | .map => "a map"
  | .target => "struct TargetConfig"
  | .output => "struct OutputConfig"

namespace SettingsError

/-- What is wrong with an entry of the wrong type. -/
def typeMessage (found : Setting) (expected : Expected) : String :=
  "invalid type: found " ++ Settings.describe found ++ ", expected " ++ expected.describe

/-- The wording of an error. -/
def message : SettingsError → String
  | .unreadable => "Configuration error: the settings file is no TOML document"
  | .wrongType path found expected =>
    "Configuration error: " ++ typeMessage found expected ++ " for key \"" ++ ".".intercalate path
      ++ "\""
  | .blank field => "Invalid configuration value for '" ++ field ++ "': must not be empty"

end SettingsError

namespace Settings

/-! ## §B Reading the merged layers -/

/-- Reading an entry fails with an error. -/
abbrev Read := Except SettingsError

/-- A text. -/
def readText (path : List String) : Setting → Read String
  | .text s => .ok s
  | v => .error (.wrongType path v .text)

/-- The place of an item, as it stands in a path. -/
def placeName (i : Nat) : String := String.ofList (Nat.toDigits 10 i)

/-- A list of texts. -/
def readTexts (path : List String) : Nat → List Setting → Read (List String)
  | _, [] => .ok []
  | i, v :: vs => do
    let s ← readText (path ++ [placeName i]) v
    let rest ← readTexts path (i + 1) vs
    pure (s :: rest)

/-- A field of a section given as a table, or its default. -/
def readField (path : List String) (entries : List (String × Setting)) (name default : String) :
    Read String :=
  match Dictionary.get? name entries with
  | some v => readText (path ++ [name]) v
  | none => .ok default

/-- A field of a section given as a list, or its default. -/
def readItem (path : List String) (items : List Setting) (i : Nat) (default : String) :
    Read String :=
  match items[i]? with
  | some v => readText (path ++ [placeName i]) v
  | none => .ok default

/-- The target where nothing else is said. -/
def defaultTarget : Target := ⟨"StorageMiner", "api", "api"⟩

/-- The methods that open a subscription where nothing else is said. -/
def defaultSubscriptions : List String := ["ChainNotify"]

/-- The section that says what to document. -/
def readTarget (path : List String) : Setting → Read Target
  | .table entries => do
    let directory ← readField path entries "api_dir" defaultTarget.directory
    let interface ← readField path entries "interface" defaultTarget.interface
    let package ← readField path entries "package" defaultTarget.package
    pure ⟨interface, package, directory⟩
  | .list items => do
    let interface ← readItem path items 0 defaultTarget.interface
    let package ← readItem path items 1 defaultTarget.package
    let directory ← readItem path items 2 defaultTarget.directory
    pure ⟨interface, package, directory⟩
  | v => .error (.wrongType path v .target)

/-- The names of the methods that open a subscription. -/
def readSubscriptions (path : List String) : Setting → Read (List String)
  | .list items => readTexts path 0 items
  | v => .error (.wrongType path v .sequence)

/-- The section about the output. -/
def readOutput (path : List String) : Setting → Read (List String)
  | .table entries =>
    match Dictionary.get? "subscription_methods" entries with
    | some v => readSubscriptions (path ++ ["subscription_methods"]) v
    | none => .ok defaultSubscriptions
  | .list items =>
    match items[0]? with
    | some v => readSubscriptions (path ++ ["0"]) v
    | none => .ok defaultSubscriptions
  | v => .error (.wrongType path v .output)

/-- The example values. -/
def readExamples (path : List String) : Setting → Read (Dictionary Json)
  | .table entries => .ok (Setting.entriesToJson entries)
  | v => .error (.wrongType path v .map)

/-- A section by its name, or its default. -/
def readSection (entries : List (String × Setting)) (name : String)
    (read : List String → Setting → Read α) (default : α) : Read α :=
  match Dictionary.get? name entries with
  | some v => read [name] v
  | none => .ok default

/-- The settings of merged layers. -/
def ofLayers : Setting → Read Settings
  | .table entries => do
    let examples ← readSection entries "examples" readExamples []
    let subscriptions ← readSection entries "output" readOutput defaultSubscriptions
    let target ← readSection entries "target" readTarget defaultTarget
    pure ⟨target, subscriptions, examples⟩
  | _ => .ok ⟨defaultTarget, defaultSubscriptions, []⟩

/-! ## §C Loading -/

/-- The layer of the defaults. -/
def defaultLayer : Setting :=
  .table
    [("examples", .table []),
     ("output", .table [("subscription_methods", .list (defaultSubscriptions.map .text))]),
     ("target", .table
       [("api_dir", .text defaultTarget.directory), ("interface", .text defaultTarget.interface),
        ("package", .text defaultTarget.package)])]

/-- Checks that no field of a target is blank. -/
def checkTarget (t : Target) : Read Unit :=
  if Text.isVoid t.interface then .error (.blank "target.interface")
  else if Text.isVoid t.package then .error (.blank "target.package")
  else if Text.isVoid t.directory then .error (.blank "target.api_dir")
  else .ok ()

/-- The contents of the settings file. -/
inductive Document where
  /-- There is no such file. -/
  | absent
  /-- The file is no text. -/
  | garbled
  | text (document : String)

/-- The layer of the settings file. -/
def documentLayer : Document → Read Setting
  | .absent => .ok (.table [])
  | .garbled => .error .unreadable
  | .text document =>
    match Toml.read? document with
    | some layer => .ok layer
    | none => .error .unreadable

/-- The settings of a settings file and the variables of the environment. -/
def load (document : Document) (environment : List (String × String)) : Read Settings := do
  let file ← documentLayer document
  let settings ← ofLayers ((defaultLayer.merge file).merge (environmentLayer environment))
  checkTarget settings.target
  pure settings

end Settings

end RollCall
