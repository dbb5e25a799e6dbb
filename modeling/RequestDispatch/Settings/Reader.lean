import RequestDispatch.Settings.Basic
import RequestDispatch.Settings.Error
import RequestDispatch.Yaml.Reader
import RequestDispatch.Yaml.Scalar

/-!
# Reading Settings

From a document to `KernelSettings`. A document is read in the order in which it is written,
and the first thing wrong with it is reported. Text may be written as any scalar; a truth
value must be written without quotes; an absent node stands for a sequence or mapping without
anything in it.
-/

namespace RequestDispatch

open Yaml

/-- Where in a document a node is, the last step first. -/
abbrev SettingsPlace := List SettingsStep

/-- A result of reading settings. -/
abbrev SettingsResult := Except SettingsError

namespace SettingsReader

/-- A description of a node. -/
def description : YamlNode → String
  | .plain text => (meaning text).description
  | .quoted text => (Meaning.text text).description
  | .sequence _ => "sequence"
  | .mapping _ => "map"
  | .broken => ""

/-- Report a fault. -/
def failAt {α : Type} (place : SettingsPlace) (fault : SettingsFault) : SettingsResult α :=
  .error (.fault place.reverse fault)

/-- Report a node of the wrong kind. -/
def wrongType {α : Type} (place : SettingsPlace) (expected : String) :
    YamlNode → SettingsResult α
  | .broken => .error .malformed
  | node => failAt place (.invalidType (description node) expected)

/-- Text, which any scalar is. -/
def text (expected : String) (place : SettingsPlace) : YamlNode → SettingsResult String
  | .plain text => .ok text
  | .quoted text => .ok text
  | node => wrongType place expected node

/-- A truth value. -/
def truth (place : SettingsPlace) : YamlNode → SettingsResult Bool
  | .plain text =>
    match bool? text with
    | some value => .ok value
    | none => wrongType place "a boolean" (.plain text)
  | node => wrongType place "a boolean" node

/-- The items of a sequence, from a position on. -/
def itemsFrom {α : Type} (read : SettingsPlace → YamlNode → SettingsResult α)
    (place : SettingsPlace) (position : Nat) : List YamlNode → SettingsResult (List α)
  | [] => .ok []
  | node :: nodes => do
    let item ← read (.item position :: place) node
    let items ← itemsFrom read place (position + 1) nodes
    return item :: items

/-- A sequence. -/
def sequence {α : Type} (read : SettingsPlace → YamlNode → SettingsResult α)
    (place : SettingsPlace) : YamlNode → SettingsResult (List α)
  | .plain "" => .ok []
  | .sequence nodes => itemsFrom read place 0 nodes
  | node => wrongType place "a sequence" node

/-- The entries of a mapping from texts to texts. -/
def textEntries (place : SettingsPlace) :
    List (YamlNode × YamlNode) → SettingsResult (List (String × String))
  | [] => .ok []
  | (key, value) :: entries => do
    let name ← text "a string" place key
    let value ← text "a string" (.key name :: place) value
    let entries ← textEntries place entries
    return (name, value) :: entries

/-- A mapping from texts to texts. The last value of a name counts. -/
def textMap (place : SettingsPlace) : YamlNode → SettingsResult (NameMap String)
  | .plain "" => .ok ∅
  | .mapping entries => NameMap.ofList <$> textEntries place entries
  | node => wrongType place "a map" node

/-- A named setting of a group of settings. -/
structure Field (σ : Type) where
  /-- Its name. -/
  name : String
  /-- Read it. -/
  read : SettingsPlace → YamlNode → σ → SettingsResult σ

/-- A setting that is read by a function and then stored. -/
def Field.of {σ α : Type} (name : String) (read : SettingsPlace → YamlNode → SettingsResult α)
    (store : σ → α → σ) : Field σ :=
  ⟨name, fun place node settings => store settings <$> read place node⟩

/-- Read the settings of a group one after another. No name may occur twice. -/
def readFields {σ : Type} (fields : List (Field σ)) (place : SettingsPlace)
    (seen : List String) : List (YamlNode × YamlNode) → σ → SettingsResult σ
  | [], settings => .ok settings
  | (key, value) :: entries, settings => do
    let name ← text "field identifier" place key
    match fields.find? (·.name = name) with
    | none => failAt place (.unknownField name (fields.map (·.name)))
    | some field =>
      if seen.contains name then failAt place (.duplicateField name)
      else
        let settings ← field.read (.key name :: place) value settings
        readFields fields place (name :: seen) entries settings

/-- A group of settings. -/
def group {σ : Type} (kind : String) (fields : List (Field σ)) (start : σ)
    (place : SettingsPlace) : YamlNode → SettingsResult σ
  | .plain "" => .ok start
  | .mapping entries => readFields fields place [] entries start
  | node => wrongType place ("struct " ++ kind) node

/-- How views are found. -/
def viewSettings (place : SettingsPlace) (node : YamlNode) : SettingsResult ViewSettings :=
  group "ViewConfig" [
    .of "dir_pattern" (text "a string") fun settings value =>
      { settings with directoryPattern := value },
    .of "extension" (text "a string") fun settings value => { settings with extension := value },
    .of "layout" (text "a string") fun settings value => { settings with layout := value },
    .of "layout_enabled" truth fun settings value => { settings with layoutEnabled := value }]
    ({} : ViewSettings) place node

/-- A route that has not been read to its end. -/
structure PartialRoute where
  /-- Its name. -/
  name : Option String := none
  /-- Its pattern. -/
  pattern : Option String := none
  /-- Its default parameters. -/
  defaults : NameMap String := ∅

/-- A route. -/
def routeSetting (place : SettingsPlace) (node : YamlNode) : SettingsResult RouteSetting := do
  let route ← group "RouteConfig" [
    .of "name" (text "a string") fun route value => { route with name := some value },
    .of "pattern" (text "a string") fun route value => { route with pattern := some value },
    .of "defaults" textMap fun route value => { route with defaults := value }]
    ({} : PartialRoute) place node
  match route.name, route.pattern with
  | none, _ => failAt place (.missingField "name")
  | _, none => failAt place (.missingField "pattern")
  | some name, some pattern => return { name, pattern, defaults := route.defaults }

/-- Kernel settings. -/
def kernelSettings (node : YamlNode) : SettingsResult KernelSettings :=
  group "KernelConfig" [
    .of "modules" (sequence (text "a string")) fun settings value =>
      { settings with modules := value },
    .of "controller_dir_pattern" (text "a string") fun settings value =>
      { settings with controllerDirectories := value },
    .of "controller_class_pattern" (text "a string") fun settings value =>
      { settings with controllerClasses := value },
    .of "base_url" (text "a string") fun settings value => { settings with baseUrl := value },
    .of "views" viewSettings fun settings value => { settings with views := value },
    .of "response_headers" textMap fun settings value =>
      { settings with responseHeaders := value },
    .of "routes" (sequence routeSetting) fun settings value => { settings with routes := value }]
    ({} : KernelSettings) [] node

end SettingsReader

namespace KernelSettings

/-- The settings in a document. -/
def ofDocument (document : YamlDocument) : SettingsResult KernelSettings := do
  let settings ← SettingsReader.kernelSettings document.root
  if document.wellFormed then return settings else .error .malformed

/-- The settings in the text of a document. -/
def parse (source : String) : SettingsResult KernelSettings := ofDocument (Yaml.parse source)

/-- The settings in a file. -/
def load (files : FileSystem) (path : String) : Except LoadError KernelSettings :=
  match files.read path with
  | .error fault => .error (.unreadable path fault)
  | .ok source =>
    match parse source with
    | .error error => .error (.unusable path error)
    | .ok settings => .ok settings

end KernelSettings

end RequestDispatch
