import RequestDispatch.Json.Printer
import RequestDispatch.Settings.Reader

/-!
# Settings as Data

Kernel settings written as a JSON value, under the names that they are read under, and read
from one.
-/

namespace RequestDispatch

/-- View settings as JSON. -/
def ViewSettings.toJson (settings : ViewSettings) : Json :=
  .object [
    ("dir_pattern", .string settings.directoryPattern),
    ("extension", .string settings.extension),
    ("layout", .string settings.layout),
    ("layout_enabled", .bool settings.layoutEnabled)]

/-- The settings of a route as JSON. -/
def RouteSetting.toJson (route : RouteSetting) : Json :=
  .object [
    ("name", .string route.name),
    ("pattern", .string route.pattern),
    ("defaults", .ofTexts route.defaults)]

mutual

/-- A JSON value as a node of a document. -/
def YamlNode.ofJson : Json → YamlNode
  | .string text => .quoted text
  | .array values => .sequence (YamlNode.ofItems values)
  | .object members => .mapping (YamlNode.ofMembers members)
  | .null => .plain "null"
  | .bool true => .plain "true"
  | .bool false => .plain "false"
  | .number value => .plain (Json.numberText value)

/-- JSON values as nodes of a document. -/
def YamlNode.ofItems : List Json → List YamlNode
  | [] => []
  | value :: values => ofJson value :: ofItems values

/-- The members of a JSON object as entries of a mapping. -/
def YamlNode.ofMembers : List (String × Json) → List (YamlNode × YamlNode)
  | [] => []
  | (name, value) :: members => (.quoted name, ofJson value) :: ofMembers members

end

namespace KernelSettings

/-- Kernel settings as JSON. -/
def toJson (settings : KernelSettings) : Json :=
  .object [
    ("modules", .array (settings.modules.map .string)),
    ("controller_dir_pattern", .string settings.controllerDirectories),
    ("controller_class_pattern", .string settings.controllerClasses),
    ("base_url", .string settings.baseUrl),
    ("views", settings.views.toJson),
    ("response_headers", .ofTexts settings.responseHeaders),
    ("routes", .array (settings.routes.map RouteSetting.toJson))]

/-- The settings in a JSON value. -/
def ofJson (value : Json) : SettingsResult KernelSettings :=
  ofDocument ⟨YamlNode.ofJson value, true⟩

end KernelSettings

end RequestDispatch
