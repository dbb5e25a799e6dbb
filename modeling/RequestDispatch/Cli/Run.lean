import RequestDispatch.Cli.Execution
import RequestDispatch.Logging.Output

/-!
# Running the Program

A run of the program from its arguments to what it leaves behind: an exit code, what it
prints, and the log lines that the log settings let through. Unless log lines are asked for,
or a level is set, only warnings and errors are written.
-/

namespace RequestDispatch

/-- Why a run fails. -/
inductive RunError where
  /-- The command line cannot be used. -/
  | usage (error : UsageError)
  /-- The command failed. -/
  | command (error : CommandError)
deriving DecidableEq

namespace RunError

/-- The exit code of a failed run. Asking for help is no failure. -/
def code : RunError → Nat
  | usage .help => 0
  | usage _ => 2
  | command _ => 1

end RunError

/-- What a run leaves behind. -/
structure Run where
  /-- What is printed, or why nothing is. -/
  result : Except RunError String
  /-- Filter directives that cannot be read. -/
  unreadable : List String := []
  /-- How log lines are written. -/
  logs : LogSettings := {}
  /-- The log lines that are written. -/
  lines : List LogLine := []

namespace Run

/-- The exit code. -/
def code (run : Run) : Nat :=
  match run.result with
  | .ok _ => 0
  | .error error => error.code

/-- The log settings of a run. -/
def logSettings (line : CommandLine) (environment : Environment) : LogSettings :=
  if line.verbose then .development
  else
    let settings := LogSettings.ofEnvironment environment
    if environment.contains "RK_LOG_LEVEL" then settings else { settings with level := "warn" }

/-- Run the program. -/
def ofArguments (environment : Environment) (files : FileSystem) (arguments : List String) :
    Run :=
  match CommandLine.ofArguments environment arguments with
  | .error error => { result := .error (.usage error) }
  | .ok line =>
    let logs := logSettings line environment
    let (output, unreadable) := LogOutput.ofSettings logs environment
    let executed := line.execute environment files
    { result := executed.value.mapError .command
      unreadable, logs
      lines := output.written executed.lines }

end Run

end RequestDispatch
