import RollCall.Program

/-!
# RollCall.Main — the command line program

Reads the disk of the machine and the environment, runs the program, and writes what came out.
-/

namespace RollCall

/-- The fault that an error of the machine stands for. -/
def ReadFault.ofError : IO.Error → ReadFault
  | .noFileOrDirectory _ _ _ => .notFound
  | .noSuchThing _ _ _ => .notFound
  | .inappropriateType _ _ _ => .notADirectory
  | e => .other (toString e)

/-- Runs a reading action and keeps its error. -/
def attempt (act : IO α) : IO (Except ReadFault α) := do
  try
    let result ← act
    pure (.ok result)
  catch e =>
    pure (.error (ReadFault.ofError e))

/-- The disk of the machine. -/
def machineDisk : Disk IO where
  list path := attempt do
    let here ← IO.currentDir
    let entries ← (here / path).readDir
    entries.toList.mapM fun entry => do
      let metadata ← entry.path.metadata
      pure ⟨entry.fileName, metadata.type == .file⟩
  read path := attempt do
    let here ← IO.currentDir
    if ← (here / path).isDir then throw (IO.userError "Is a directory")
    IO.FS.readBinFile (here / path)

/-- The variables of the environment, as the process was given them. -/
def machineVariables : IO (List (String × String)) := do
  match ← attempt (IO.FS.readBinFile "/proc/self/environ") with
  | .error _ => pure []
  | .ok contents =>
    let text := (String.fromUTF8? contents).getD ""
    pure <| (Text.pieces (fun c => c.toNat == 0) text.toList).filterMap fun item =>
      let name := item.takeWhile (· != '=')
      match item.drop name.length with
      | _ :: value => some (String.ofList name, String.ofList value)
      | [] => none

end RollCall

/-- Runs the program on the words of the command line. -/
def main (words : List String) : IO UInt32 := do
  let environment ← RollCall.machineVariables
  let (outcome, alerts) ← RollCall.Program.run RollCall.machineDisk environment words
  let errors ← IO.getStderr
  for alert in alerts do
    errors.putStrLn alert.line
  match outcome.complaint with
  | some text => errors.putStrLn text
  | none => pure ()
  let output ← IO.getStdout
  output.putStr outcome.output
  output.flush
  pure (UInt32.ofNat outcome.status)
