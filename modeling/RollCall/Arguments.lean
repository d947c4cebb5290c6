import RollCall.Documentation
import RollCall.Text.Blank

/-!
# RollCall.Arguments — the words of the command line

Words are read from left to right. A word that starts with two dashes is a long switch, one that
starts with one dash is a cluster of short switches, and every other word is a value: of the option
before it if that one still waits for its value, and the project root otherwise. Two dashes alone
make every following word a value, and one dash alone is a value.

A value is not examined when it is read but when the next switch or value comes, or at the end; the
same holds for an option that is still without its value. A switch that does not exist ends the
reading at once, so it is reported before a bad value in front of it.
-/

namespace RollCall

/-- What a command line asks for. -/
structure Arguments where
  root : String
  format : Format
  examples : Bool
  interface : Option String
  quiet : Bool
  verbose : Bool
deriving DecidableEq, Repr

/-- Why a command line is not run. -/
inductive ArgumentError where
  /-- There is no such switch, or no use for another value. -/
  | unknown
  /-- A value is missing, empty or none of the possible ones. -/
  | badValue
  /-- The project root is not given. -/
  | missingRoot
  /-- Something is given twice. -/
  | repeated
  /-- A switch that takes no value has one. -/
  | unneededValue
  /-- The help is asked for. -/
  | help
  /-- The version is asked for. -/
  | version
deriving DecidableEq, Repr

namespace Arguments

/-! ## §A Switches -/

/-- The arguments that have a value. -/
inductive Slot where
  | root
  | format
  | interface
deriving DecidableEq, Repr

/-- The switches that have none. -/
inductive Flag where
  | examples
  | quiet
  | verbose
  | help
  | version
deriving DecidableEq, Repr

/-- A switch. -/
inductive Switch where
  | flag (flag : Flag)
  | option (slot : Slot)
deriving DecidableEq, Repr

/-- The switch of a long name. -/
def longSwitch? (name : String) : Option Switch :=
  match name with
  | "format" => some (.option .format)
  | "interface" => some (.option .interface)
  | "examples" => some (.flag .examples)
  | "quiet" => some (.flag .quiet)
  | "verbose" => some (.flag .verbose)
  | "help" => some (.flag .help)
  | "version" => some (.flag .version)
  | _ => none

/-- The switch of a single character. -/
def shortSwitch? (c : Char) : Option Switch :=
  match c with
  | 'f' => some (.option .format)
  | 'i' => some (.option .interface)
  | 'q' => some (.flag .quiet)
  | 'v' => some (.flag .verbose)
  | 'h' => some (.flag .help)
  | 'V' => some (.flag .version)
  | _ => none

/-- The format of a name. -/
def format? (name : String) : Option Format :=
  match name with
  | "json" => some .json
  | "markdown" => some .markdown
  | _ => none

/-! ## §B What has been read -/

/-- The arguments read so far. -/
structure Draft where
  root : Option String := none
  format : Option Format := none
  interface : Option String := none
  examples : Bool := false
  quiet : Bool := false
  verbose : Bool := false
  /-- The argument that was read last and is not examined yet, with its value if there is one. -/
  pending : Option (Slot × Option String) := none
  /-- Whether a project root was read, examined or not. -/
  rooted : Bool := false
  /-- Whether only values follow. -/
  onlyValues : Bool := false

namespace Draft

/-- Takes up the value of an argument. -/
def give (d : Draft) (slot : Slot) (value : String) : Except ArgumentError Draft :=
  match slot with
  | .root =>
    if value.isEmpty then .error .badValue else .ok { d with root := some value }
  | .format =>
    if d.format.isSome then .error .repeated
    else
      match format? value with
      | some format => .ok { d with format := some format }
      | none => .error .badValue
  | .interface =>
    if d.interface.isSome then .error .repeated else .ok { d with interface := some value }

/-- Examines the argument that was read last. -/
def settle (d : Draft) : Except ArgumentError Draft :=
  match d.pending with
  | none => .ok d
  | some (_, none) => .error .badValue
  | some (slot, some value) => { d with pending := none }.give slot value

/-- Takes up a switch without a value. -/
def raise (d : Draft) (flag : Flag) : Except ArgumentError Draft := do
  let d ← d.settle
  match flag with
  | .examples => if d.examples then .error .repeated else .ok { d with examples := true }
  | .quiet => if d.quiet then .error .repeated else .ok { d with quiet := true }
  | .verbose => if d.verbose then .error .repeated else .ok { d with verbose := true }
  | .help => .error .help
  | .version => .error .version

/-- Takes up an option. A value that is attached to it is examined at once. -/
def begin (d : Draft) (slot : Slot) (attached : Option String) : Except ArgumentError Draft := do
  let d ← d.settle
  match attached with
  | some value => d.give slot value
  | none => .ok { d with pending := some (slot, none) }

/-- Takes up a value that belongs to no option. -/
def place (d : Draft) (value : String) : Except ArgumentError Draft :=
  if d.rooted then .error .unknown
  else do
    let d ← d.settle
    pure { d with rooted := true, pending := some (.root, some value) }

/-- Takes up a value. -/
def value (d : Draft) (value : String) : Except ArgumentError Draft :=
  match d.pending with
  | some (slot, none) =>
    if d.onlyValues then d.place value else .ok { d with pending := some (slot, some value) }
  | _ => d.place value

end Draft

/-! ## §C Words -/

/-- A long switch, after its dashes. An equals sign attaches a value. -/
def readLong (d : Draft) (word : List Char) : Except ArgumentError Draft :=
  let name := word.takeWhile (· != '=')
  let attached : Option String :=
    match word.drop name.length with
    | [] => none
    | _ :: value => some (String.ofList value)
  match longSwitch? (String.ofList name) with
  | none => .error .unknown
  | some (.option slot) => d.begin slot attached
  | some (.flag flag) => if attached.isSome then .error .unneededValue else d.raise flag

/-- A cluster of short switches, after its dash. What follows an option in the cluster is its value,
without an equals sign in front. -/
def readShort (d : Draft) : List Char → Except ArgumentError Draft
  | [] => .ok d
  | c :: rest =>
    match shortSwitch? c with
    | none => .error .unknown
    | some (.flag flag) =>
      match d.raise flag with
      | .error e => .error e
      | .ok d => readShort d rest
    | some (.option slot) =>
      match rest with
      | [] => d.begin slot none
      | '=' :: value => d.begin slot (some (String.ofList value))
      | value => d.begin slot (some (String.ofList value))

/-- One word. -/
def readWord (d : Draft) (word : String) : Except ArgumentError Draft :=
  if d.onlyValues then d.value word
  else
    match word.toList with
    | ['-', '-'] => .ok { d with onlyValues := true }
    | '-' :: '-' :: rest => readLong d rest
    | '-' :: c :: rest => readShort d (c :: rest)
    | _ => d.value word

/-- Words from left to right, up to the first error. -/
def readWords : Draft → List String → Except ArgumentError Draft
  | d, [] => .ok d
  | d, word :: words =>
    match readWord d word with
    | .error e => .error e
    | .ok d => readWords d words

/-- The arguments of a command line, the name of the program left out. -/
def parse (words : List String) : Except ArgumentError Arguments := do
  let d ← readWords {} words
  let d ← d.settle
  match d.root with
  | none => .error .missingRoot
  | some root =>
    .ok ⟨root, d.format.getD .json, d.examples, d.interface, d.quiet, d.verbose⟩

end Arguments

end RollCall
