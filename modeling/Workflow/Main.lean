import Workflow.CommandLine.Program

/-! The program at a terminal. Only reading and writing happen here. -/

namespace Workflow.Main

open CommandLine

def variableNames : List String :=
  ["STATEWRIGHT_CONFIG", "STATEWRIGHT_LOG", "STATEWRIGHT_AUTO_BIND", "STATEWRIGHT_HISTORY", "HOME",
    "RUST_LOG", "CLICOLOR_FORCE", "TERM"]

def readEnvironment : IO Environment := do
  let values ← variableNames.mapM fun name => do
    return (← IO.getEnv name).map fun value => (name, value)
  return ⟨values.filterMap id⟩

/-- What goes wrong in any other way leaves no file to read either. -/
def readError : IO.Error → ReadError
  | .permissionDenied .. => .permissionDenied
  | .inappropriateType _ code _ => if code = 21 then .isDirectory else .notDirectory
  | .invalidArgument _ code _ => if code = 36 then .nameTooLong else .zeroInName
  | _ => .notFound

def readBytes (path : String) : IO (Except ReadError ByteArray) := do
  try
    return .ok (← IO.FS.readBinFile path)
  catch e => return .error (readError e)

def readAll (paths : List String) : IO Files := do
  let contents ← paths.mapM fun path => return (path, ← readBytes path)
  return fun path => (contents.lookup path).getD (.error .notFound)

def readFiles (env : Environment) (words : List String) : IO Files := do
  match Request.ofWords env words with
  | .ok (.invoke i) =>
    let files ← readAll i.paths
    readAll (i.paths ++ (i.historyPath? files env).toList)
  | _ => readAll []

def write (o : Output) : IO Unit := do
  for (channel, text) in o do
    let stream ← match channel with
      | .out => IO.getStdout
      | .err => IO.getStderr
    stream.putStr text
    stream.flush

def readLine : IO (Option String) := do
  try
    return some (← (← IO.getStdin).getLine)
  catch _ => return none

partial def serve (r : Repl) : IO UInt32 := do
  write r.ask
  match ← readLine with
  | none => write r.unreadable; return 0
  | some "" => write Repl.close; return 0
  | some line =>
    let response := r.feed line
    write response.output
    match response.exitCode with
    | some exitCode => return exitCode.toUInt32
    | none => serve response.repl

end Workflow.Main

def main (words : List String) : IO UInt32 := do
  let env ← Workflow.Main.readEnvironment
  let files ← Workflow.Main.readFiles env words
  match Workflow.CommandLine.start files env words with
  | .done outcome =>
    Workflow.Main.write outcome.output
    return outcome.exitCode.toUInt32
  | .interactive output repl =>
    Workflow.Main.write output
    Workflow.Main.serve repl
