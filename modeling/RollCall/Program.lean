import RollCall.Arguments
import RollCall.Log.Filter
import RollCall.Project

/-!
# RollCall.Program — one run of the command line program

A run reads the command line, loads the settings of the project, documents the interface and writes
the result in the wanted format. What it shows besides depends on the log filter: the variable for
it counts first, if it holds a filter, and the switches for quiet and verbose after it.
-/

namespace RollCall

/-- How a run ends. -/
inductive Outcome where
  /-- The documentation in the wanted format. -/
  | report (text : String)
  | help
  | version
  /-- The command line cannot be run. -/
  | misuse (error : ArgumentError)
  /-- The run failed for the given reason. -/
  | failure (reason : String)
deriving DecidableEq, Repr

namespace Outcome

/-- The name of the program with its version. -/
def versionLine : String := "schemagen 0.1.0\n"

/-- How the program is used. -/
def helpText : String :=
  "Emit the method manifest of a Go API interface\n\n" ++
  "Usage: schemagen [OPTIONS] <ROOT>\n\n" ++
  "Arguments:\n" ++
  "  <ROOT>  Project root; sources are read from <ROOT>/api unless configured otherwise\n\n" ++
  "Options:\n" ++
  "  -f, --format <FORMAT>        Output format: json, markdown [default: json]\n" ++
  "      --examples               Add input and response examples to markdown output\n" ++
  "  -i, --interface <INTERFACE>  Interface to document (overrides configuration)\n" ++
  "  -q, --quiet                  Quiet mode (errors only)\n" ++
  "  -v, --verbose                Verbose mode (debug logging)\n" ++
  "  -h, --help                   Print help\n" ++
  "  -V, --version                Print version\n"

/-- The exit status. -/
def status : Outcome → Nat
  | .report _ => 0
  | .help => 0
  | .version => 0
  | .misuse _ => 2
  | .failure _ => 1

/-- What is written to standard output. -/
def output : Outcome → String
  | .report text => text
  | .help => helpText
  | .version => versionLine
  | .misuse _ => ""
  | .failure _ => ""

/-- What is said about a command line that cannot be run. -/
def usage : ArgumentError → String
  | .unknown => "error: unexpected argument found"
  | .badValue => "error: invalid value for an argument"
  | .missingRoot => "error: the following required arguments were not provided: <ROOT>"
  | .repeated => "error: an argument cannot be used multiple times"
  | .unneededValue => "error: unexpected value for an argument"
  | .help => ""
  | .version => ""

/-- The complaint of a run that failed. -/
def complaint : Outcome → Option String
  | .failure reason => some ("schemagen error: " ++ reason)
  | .misuse error => some (usage error)
  | .report _ => none
  | .help => none
  | .version => none

end Outcome

/-- A message of the warning level. -/
inductive Alert where
  /-- Something met while the project was documented. -/
  | noticed (notice : Notice)
  /-- Examples were asked for in a format that has none. -/
  | examplesIgnored
  /-- That many faults were found in the sources. -/
  | incomplete (count : Nat)
deriving DecidableEq, Repr

namespace Alert

/-- The channel of a message, by which filters select it. -/
def channel : Alert → String
  | .noticed (.fault _) => "schemagen_parser::parser"
  | .noticed (.warning (.notAnInterface _ _)) => "schemagen_parser::extractors::go"
  | .noticed (.warning (.unknownEmbed _)) => "schemagen_parser::method_set"
  | .noticed (.warning (.foreignEmbed _ _)) => "schemagen_parser::method_set"
  | .examplesIgnored => "schemagen"
  | .incomplete _ => "schemagen"

/-- The wording of a message. -/
def message : Alert → String
  | .noticed (.fault _) => "parse error"
  | .noticed (.warning w) => w.message
  | .examplesIgnored => "--examples only applies to markdown output; ignoring"
  | .incomplete _ => "sources had parse errors; the manifest may be incomplete"

/-- A number in decimal. -/
def numeral (n : Nat) : String := String.ofList (Nat.toDigits 10 n)

/-- What a message is about, by name. -/
def details : Alert → List (String × String)
  | .noticed (.fault d) => [("file", d.file), ("line", numeral d.line), ("message", d.message)]
  | .noticed (.warning w) => w.details
  | .examplesIgnored => []
  | .incomplete count => [("count", numeral count)]

/-- The names of all details; the wording is one of them. -/
def detailNames (a : Alert) : List String := "message" :: a.details.map Prod.fst

/-- Whether a filter shows a message. -/
def isShown (filter : Log.Filter) (a : Alert) : Bool :=
  filter.shows a.channel a.detailNames .warn

/-- A message as one line of a log. -/
def line (a : Alert) : String :=
  " WARN " ++ a.channel ++ ": " ++ a.message
    ++ String.join (a.details.map fun (name, value) => " " ++ name ++ "=" ++ value)

end Alert

namespace Program

variable {m : Type → Type} [Monad m]

/-- The environment variable that holds a log filter. -/
def logVariable : String := "SCHEMAGEN_LOG"

/-- The level that the switches ask for; quiet goes before verbose. -/
def switchedLevel (args : Arguments) : Log.Level :=
  if args.quiet then .error else if args.verbose then .debug else .warn

/-- The log filter of a run. -/
def filter (environment : List (String × String)) (args : Arguments) : Log.Filter :=
  ((environment.lookup logVariable).bind Log.Filter.parse?).getD (.ofLevel (switchedLevel args))

/-- The settings with what the command line puts over them. -/
def adjust (args : Arguments) (settings : Settings) : Except SettingsError Settings :=
  match args.interface with
  | none => .ok settings
  | some interface => do
    let settings := { settings with target := { settings.target with interface := interface } }
    Settings.checkTarget settings.target
    pure settings

/-- Whether examples are built: only one of the formats shows them. -/
def buildsExamples (args : Arguments) : Bool := args.examples && args.format == .markdown

/-- The message about examples that are not built. -/
def ignored (args : Arguments) : List Alert :=
  if args.examples && !buildsExamples args then [.examplesIgnored] else []

/-- The message about faults in the sources. -/
def incompleteness (docs : Documentation) : List Alert :=
  if docs.diagnostics.isEmpty then [] else [.incomplete docs.diagnostics.length]

/-- Documents a project with settings that are ready. -/
def report (disk : Disk m) (args : Arguments) (settings : Settings) : m (Outcome × List Alert) := do
  let (result, notices) ← Project.document disk args.root settings (buildsExamples args)
  let alerts := ignored args ++ notices.map .noticed
  match result with
  | .error e => pure (.failure e.message, alerts)
  | .ok docs => pure (.report (docs.render args.format), alerts ++ incompleteness docs)

/-- Loads the settings and documents the project. -/
def start (disk : Disk m) (environment : List (String × String)) (args : Arguments) :
    m (Outcome × List Alert) := do
  match ← Project.settings disk args.root environment with
  | .error e => pure (.failure ("failed to load schemagen configuration: " ++ e.message), [])
  | .ok settings =>
    match adjust args settings with
    | .error e => pure (.failure e.message, [])
    | .ok settings => report disk args settings

/-- One run, with the messages that the log filter shows. -/
def run (disk : Disk m) (environment : List (String × String)) (words : List String) :
    m (Outcome × List Alert) := do
  match Arguments.parse words with
  | .error .help => pure (.help, [])
  | .error .version => pure (.version, [])
  | .error e => pure (.misuse e, [])
  | .ok args =>
    let (outcome, alerts) ← start disk environment args
    pure (outcome, alerts.filter (Alert.isShown (filter environment args)))

end Program

end RollCall
