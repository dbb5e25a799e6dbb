import RequestDispatch.Logging.Filter
import RequestDispatch.Logging.Settings

/-!
# Log Output

Which log lines are written. A line that is more verbose than any directive allows is dropped
at once. Of the others the sampler decides first, and counts the line if it counts lines at
all; then the filter does.
-/

namespace RequestDispatch

open Text

/-- What decides which log lines are written. -/
structure LogOutput where
  /-- The directives. -/
  filter : LogFilter
  /-- Which lines are kept. -/
  sampler : Sampler

namespace LogOutput

/-- The directives of a list separated by commas, without those that cannot be read, which are
the second component. -/
def readDirectives (text : String) : List LogDirective × List String :=
  let parts := ((splitAt (· = ',') text).map trim).filter (!·.isEmpty)
  (parts.filterMap LogDirective.parse?,
    parts.filter fun part => (LogDirective.parse? part).isNone)

/-- The output that settings ask for. The environment's own directives, if they can be read,
take the place of the configured level. The second component lists directives that cannot be
read. -/
def ofSettings (settings : LogSettings) (environment : Environment) :
    LogOutput × List String :=
  let filter :=
    ((environment.get? "RUST_LOG").bind LogFilter.parse?).getD
      ⟨[⟨"", settings.minimum.verbosity⟩]⟩
  let (more, unreadable) := readDirectives (settings.targetFilter.getD "")
  ({ filter := more.foldl LogFilter.add filter
     sampler := .ofRate settings.samplingMode settings.samplingRate }, unreadable)

/-- Whether a line is written, and what decides on the lines after it. -/
def offer (output : LogOutput) (line : LogLine) : Bool × LogOutput :=
  if output.filter.greatestVerbosity < line.level.verbosity then (false, output)
  else
    let (kept, sampler) := output.sampler.offer line.level
    (kept && output.filter.passes line.level line.component.target, { output with sampler })

/-- The lines that are written. -/
def written (output : LogOutput) : List LogLine → List LogLine
  | [] => []
  | line :: lines =>
    let (kept, next) := output.offer line
    let rest := next.written lines
    if kept then line :: rest else rest

end LogOutput

end RequestDispatch
