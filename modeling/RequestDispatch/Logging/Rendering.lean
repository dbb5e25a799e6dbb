import RequestDispatch.Json.Printer
import RequestDispatch.Logging.Settings

/-!
# Rendering Log Lines

How a log line is written: as one JSON object, or laid out for reading.
-/

namespace RequestDispatch

namespace FieldValue

/-- The value of a field as JSON. -/
def toJson : FieldValue → Json
  | text value => .string value
  | number value => .int value
  | flag value => .bool value

/-- The value of a field as plain text. -/
def plain : FieldValue → String
  | text value => value
  | number value => toString value
  | flag true => "true"
  | flag false => "false"

end FieldValue

namespace LogLine

/-- A line as JSON. -/
def toJson (line : LogLine) : Json :=
  .object [
    ("level", .string line.level.name),
    ("fields", .object (("message", .string line.message) ::
      line.fields.map fun (name, value) => (name, value.toJson))),
    ("target", .string line.component.target)]

/-- A line laid out for reading. -/
def laidOut (line : LogLine) : String :=
  let fields := line.fields.map fun (name, value) => ", " ++ name ++ ": " ++ value.plain
  "  " ++ line.level.name ++ " " ++ line.component.target ++ ": " ++ line.message
    ++ String.join fields

/-- A line in some format. -/
def render (line : LogLine) : LogFormat → String
  | .json => line.toJson.compact
  | .pretty => line.laidOut

end LogLine

end RequestDispatch
