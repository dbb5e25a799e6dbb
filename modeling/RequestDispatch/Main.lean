import RequestDispatch.Cli.Run
import RequestDispatch.Logging.Rendering

/-!
# The Program

Runs the command line in the environment and the file system of the process. Output goes to
standard output; warnings, log lines and errors go to standard error.
-/

namespace RequestDispatch

/-- The environment variables that a run looks at. -/
def environmentVariables : List String := [
  "RK_CONFIG", "RK_BASE_URL", "RK_MODULES", "RK_CONTROLLER_DIR", "RK_VIEW_DIR",
  "RK_LOG_LEVEL", "RK_LOG_FORMAT", "RK_LOG_SAMPLING_MODE", "RK_LOG_SAMPLING_RATE",
  "RK_LOG_TARGET_FILTER", "RK_LOG_INCLUDE_LOCATION", "RUST_LOG"]

/-- The environment of the process. -/
def processEnvironment : IO Environment := do
  let mut environment : Environment := ∅
  for name in environmentVariables do
    if let some value ← IO.getEnv name then environment := environment.insert name value
  return environment

/-- Read the text of a file. -/
def readText (path : String) : IO (Except ReadFault String) := do
  try
    let bytes ← IO.FS.readBinFile path
    return match String.fromUTF8? bytes with
      | some text => .ok text
      | none => .error .notText
  catch
    | .inappropriateType .. => return .error .isADirectory
    | _ => return .error .notFound

/-- A file system that holds one file. -/
def fileSystemOf (path : String) (content : Except ReadFault String) : FileSystem where
  isDirectory _ := false
  isFile other := other == path
  read other := if other == path then content else .error .notFound

/-- The files that a run looks at: the settings file. -/
def filesFor (environment : Environment) (arguments : List String) : IO FileSystem := do
  match CommandLine.ofArguments environment arguments with
  | .ok { config := some path, .. } => return fileSystemOf path (← readText path)
  | _ => return fileSystemOf "" (.error .notFound)

/-- What a run says on standard error about its failure. -/
def complaint : RunError → Option String
  | .usage .help => none
  | .usage (.refusedValue reason) => some ("error: " ++ reason)
  | .usage _ => some "error: the arguments cannot be used; see --help"
  | .command (.settings (.unreadable path fault)) =>
    some ("Error: " ++ (LoadError.unreadable path fault).message
      ++ "\n\nCaused by:\n    " ++ fault.reason)
  | .command error => some ("Error: " ++ error.message)

/-- How the program is used. -/
def usageText : String :=
  "Route and reverse-route URLs against a kernel configuration\n\n" ++
  "Usage: request-dispatch [--config FILE] [--verbose] COMMAND\n\n" ++
  "Commands:\n" ++
  "  match URI [--base-url URL] [--method NAME] [--json]\n" ++
  "  url NAME [KEY=value]... [--query TEXT] [--fragment TEXT]\n" ++
  "  routes\n" ++
  "  help\n"

end RequestDispatch

open RequestDispatch in
/-- Run the program. -/
def main (arguments : List String) : IO UInt32 := do
  let environment ← processEnvironment
  let run := Run.ofArguments environment (← filesFor environment arguments) arguments
  for directive in run.unreadable do
    IO.eprintln ("Warning: Invalid log filter directive: " ++ directive)
  for line in run.lines do
    IO.eprintln (line.render run.logs.format)
  match run.result with
  | .ok output => IO.print output
  | .error (.usage .help) => IO.print usageText
  | .error (.usage .helpInstead) => IO.eprint usageText
  | .error error => (complaint error).forM IO.eprintln
  return UInt32.ofNat run.code
