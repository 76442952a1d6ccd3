import ManagementModel.CommandLine.Exchange
import ManagementModel.CommandLine.Session
import ManagementModel.Session
import ManagementModel.Upload

/-!
# ManagementModel — the program

Carries out one command. Settings and files are read from the file system; the request is written
to standard output, the answer of the peer that carries it is read from standard input, and then
the result is written.
-/

namespace ManagementModel

open CommandLine

/-- What is read from the file of a path. -/
def readFile (path : Files.Path) : IO (Except Files.FileError (List UInt8)) := do
  try
    return .ok (← IO.FS.readBinFile path.text).toList
  catch
    | .noFileOrDirectory .. => return .error .notFound
    | e => return .error (.other (toString e))

/-- The variables that settings depend on. -/
def readVariables : IO Variables := do
  let names := ["HAL_CONFIG_PATH", "HAL_MANAGEMENT_URL", "HAL_USERNAME", "HAL_PASSWORD",
    "HAL_TIMEOUT_SECS", "HAL_DOMAIN", "XDG_CONFIG_HOME", "HOME"]
  let values ← names.filterMapM fun name => do
    return (← IO.getEnv name).map fun value => (name, Text.Utf8.bytes value)
  return { values := values }

/-- Ends the program with a message. -/
def stop {α : Type} (message : String) : IO α :=
  throw (IO.userError message)

/-- The result of a check, or the end of the program with its message. -/
def orStop {ε α : Type} (message : ε → String) : Except ε α → IO α
  | .ok a => return a
  | .error e => stop (message e)

/-- The file that a command uploads. -/
def readUpload : Command → IO (Option UploadFile)
  | .upload file _ _ _ field => do
    let path := Files.Path.ofText file
    let content ← readFile path
    let upload ← orStop (fun e => s!"failed to read {file}: {e.message}")
      (UploadFile.ofContent field path content)
    return some upload
  | _ => return none

/-- Sends a message by way of the peer, and waits for the answer. -/
def exchange (message : Message) : IO Answer := do
  (messageLines message).forM IO.println
  (← IO.getStdout).flush
  return answerOf (← (← IO.getStdin).readToEnd)

/-- Carries out a command line. -/
def carryOut (i : Invocation) : IO Unit := do
  let v ← readVariables
  let content ← readFile v.settingsPath
  let settings ← orStop (·.message) (i.options.settings (fun _ => content) v)
  let dispatcher : Dispatcher Unit ←
    orStop (fun e => s!"failed to set up the dispatcher: {e.message}")
      (Dispatcher.ofSettings settings)
  let operation ← orStop (·.message) (i.operation i.options.selection)
  let what : Dispatch := ⟨operation, ← readUpload i.command⟩
  let answer ← match what.message dispatcher.endpoints with
    | .ok message => exchange message
    | .error _ => pure (.error (.transport ""))
  let (_, outcome) := dispatcher.dispatch what answer
  IO.println (← orStop id (report outcome))

end ManagementModel

open ManagementModel CommandLine

def main (args : List String) : IO UInt32 := do
  match Invocation.ofArguments ("hal" :: args) with
  | .error e =>
    if e.isRequest then
      IO.println e.message
      return 0
    IO.eprintln e.message
    return 2
  | .ok i =>
    try
      carryOut i
      return 0
    catch e =>
      IO.eprintln (toString e)
      return 1
