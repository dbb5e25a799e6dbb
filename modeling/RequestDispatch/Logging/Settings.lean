import RequestDispatch.Decimal.Reading
import RequestDispatch.FileSystem
import RequestDispatch.Logging.Sampling

/-!
# Log Settings

How log lines are written and which, as set by environment variables. What is not set is as
in production.
-/

namespace RequestDispatch

/-- How log lines are written. -/
inductive LogFormat where
  /-- One JSON object for every line. -/
  | json
  /-- Laid out for reading. -/
  | pretty
deriving DecidableEq, Repr

/-- The format that a word names, the case of letters aside. What is no name is JSON. -/
def LogFormat.parse (word : String) : LogFormat :=
  if String.ofList (word.toList.map Char.toLower) = "pretty" then pretty else json

/-- How log lines are written and which. -/
structure LogSettings where
  /-- The name of the least severe level. -/
  level : String := "info"
  /-- How lines are written. -/
  format : LogFormat := .json
  /-- Which lines are kept. -/
  samplingMode : SamplingMode := .all
  /-- How many of the less severe lines are kept in the sampled mode. -/
  samplingRate : Float := 1
  /-- More filter directives, separated by commas. -/
  targetFilter : Option String := none
  /-- Whether lines say where they come from. -/
  includeLocation : Bool := false

namespace LogSettings

/-- The settings for development. -/
def development : LogSettings where
  level := "debug"
  format := .pretty
  includeLocation := true

/-- The settings for production. -/
def production : LogSettings := {}

/-- The truth value that a word is. -/
def bool? : String → Option Bool
  | "true" => some true
  | "false" => some false
  | _ => none

/-- The settings of an environment. A value that cannot be read counts as not set. -/
def ofEnvironment (environment : Environment) : LogSettings where
  level := (environment.get? "RK_LOG_LEVEL").getD production.level
  format := ((environment.get? "RK_LOG_FORMAT").map LogFormat.parse).getD production.format
  samplingMode :=
    ((environment.get? "RK_LOG_SAMPLING_MODE").map SamplingMode.parse).getD
      production.samplingMode
  samplingRate :=
    ((environment.get? "RK_LOG_SAMPLING_RATE").bind Decimal.read?).getD production.samplingRate
  targetFilter := environment.get? "RK_LOG_TARGET_FILTER"
  includeLocation :=
    ((environment.get? "RK_LOG_INCLUDE_LOCATION").bind bool?).getD production.includeLocation

/-- The least severe level: the one that is named, or the middle one if none is. -/
def minimum (settings : LogSettings) : Level :=
  match String.ofList (settings.level.toList.map Char.toLower) with
  | "trace" => .trace
  | "debug" => .debug
  | "warn" => .warn
  | "error" => .error
  | _ => .info

end LogSettings

end RequestDispatch
