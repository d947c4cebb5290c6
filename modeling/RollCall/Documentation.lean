import RollCall.Example.Generate
import RollCall.Report.Manifest
import RollCall.Report.Markdown
import RollCall.Settings.Load
import RollCall.SignatureSearch

/-!
# RollCall.Documentation — what is reported about an interface

The documentation of an interface lists its method set in groups, with the comments of the methods
that the interface declares itself, and gives the manifest of the same methods. On request every
method gets examples of what it takes and gives; all of them are built on one bench, in the order of
the groups, and the first method without an example is the error.
-/

namespace RollCall

/-- What is reported about an interface. -/
structure Documentation where
  groups : List Group
  manifest : Manifest
  diagnostics : List Diagnostic

/-- Why there is no documentation of a package's interface. -/
inductive DocumentationError where
  | unknownInterface (error : UnknownInterface)
  /-- A method of the method set has no walked declaration. -/
  | noSignature (method : String)
  /-- A method takes or gives a type without an example. -/
  | noExample (method : String) (error : ExampleError)
deriving DecidableEq, Repr

/-- The wording of an error with its reasons. -/
def DocumentationError.message : DocumentationError → String
  | .unknownInterface error => error.message
  | .noSignature method => "no signature found for method " ++ method
  | .noExample method error => "failed to build examples for " ++ method ++ ": " ++ error.message

/-- The forms in which documentation is written. -/
inductive Format where
  | json
  | markdown
deriving DecidableEq, Repr

namespace Documentation

/-! ## §A Examples -/

/-- What is needed to add examples: the declared types and the signatures by method name. -/
structure Sources where
  types : Declarations
  methods : Dictionary WalkedMethod

/-- A method with its examples, and the bench after them. -/
def withExample (sources : Sources) (m : Method) (bench : Example.Bench) :
    Except DocumentationError (Method × Example.Bench) :=
  match Dictionary.get? m.name sources.methods with
  | none => .error (.noSignature m.name)
  | some walked =>
    match Example.ofMethod sources.types walked.signature.params walked.signature.results bench with
    | (.error e, _) => .error (.noExample m.name e)
    | (.ok (inputs, response), bench) =>
      .ok ({ m with inputExample := some inputs, responseExample := some response }, bench)

/-- Methods with their examples. -/
def methodsWithExamples (sources : Sources) :
    List Method → Example.Bench → Except DocumentationError (List Method × Example.Bench)
  | [], bench => .ok ([], bench)
  | m :: ms, bench => do
    let (m, bench) ← withExample sources m bench
    let (ms, bench) ← methodsWithExamples sources ms bench
    pure (m :: ms, bench)

/-- Groups with the examples of their methods. -/
def groupsWithExamples (sources : Sources) :
    List Group → Example.Bench → Except DocumentationError (List Group × Example.Bench)
  | [], bench => .ok ([], bench)
  | g :: gs, bench => do
    let (methods, bench) ← methodsWithExamples sources g.methods bench
    let (gs, bench) ← groupsWithExamples sources gs bench
    pure ({ g with methods := methods } :: gs, bench)

/-- The registry of a run: the settings go over the built-in values. -/
def registry (settings : Settings) : Registry := Dictionary.setAll Registry.seeded settings.examples

/-! ## §B Documentation of a package -/

/-- What the comments of an interface say about its own methods. -/
def comments (p : Package) (interface : String) : Comment.Index :=
  match (p.walk interface).1 with
  | some walked => Comment.Index.ofMethods walked.annotated
  | none => .empty

/-- The groups of an interface without examples. -/
def plainGroups (p : Package) (interface : String) : Except DocumentationError (List Group) :=
  match MethodSet.names p.index interface with
  | .error e => .error (.unknownInterface e)
  | .ok names => .ok (Group.ofNames names (comments p interface))

/-- The groups of an interface, with examples if they are wanted. -/
def groupsOf (p : Package) (settings : Settings) (examples : Bool) :
    Except DocumentationError (List Group) := do
  let plain ← plainGroups p settings.target.interface
  if examples then
    let index := p.index
    let sources : Sources :=
      ⟨index.types, (SignatureSearch.ofInterface p index settings.target.interface).methods⟩
    let (groups, _) ← groupsWithExamples sources plain (.fresh (registry settings))
    pure groups
  else pure plain

/-- The documentation of the interface that the settings name. -/
def ofPackage (p : Package) (settings : Settings) (examples : Bool) :
    Except DocumentationError Documentation := do
  let groups ← groupsOf p settings examples
  pure ⟨groups, Manifest.ofGroups groups settings.subscriptions, p.diagnostics⟩

/-- The warnings of documenting an interface, in order: those of walking it, of listing its methods
and, with examples, of looking up signatures. -/
def warnings (p : Package) (interface : String) (examples : Bool) : List Warning :=
  let index := p.index
  let listed := (p.walk interface).2 ++ MethodSet.warnings index interface
  if examples && (index.shape? interface).isSome then
    listed ++ (SignatureSearch.ofInterface p index interface).warnings
  else listed

/-- Documentation as text. -/
def render (docs : Documentation) : Format → String
  | .json => docs.manifest.render
  | .markdown => Markdown.render docs.groups

end Documentation

end RollCall
