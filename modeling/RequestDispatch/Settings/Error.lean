import RequestDispatch.FileSystem

/-!
# Settings Errors

Why settings could not be read from a document, and where in the document, or why there is no
document to read them from.
-/

namespace RequestDispatch

/-- A step from a node of a document to one below it. -/
inductive SettingsStep where
  /-- To the value of a key. -/
  | key (name : String)
  /-- To an item. -/
  | item (position : Nat)
deriving DecidableEq, Repr

/-- What is wrong with a node. -/
inductive SettingsFault where
  /-- A name that no setting has. -/
  | unknownField (name : String) (expected : List String)
  /-- A setting that is not there. -/
  | missingField (name : String)
  /-- A setting that is there twice. -/
  | duplicateField (name : String)
  /-- A node of the wrong kind. -/
  | invalidType (found expected : String)
deriving DecidableEq, Repr

/-- Why settings could not be read from a document. -/
inductive SettingsError where
  /-- The document is not well-formed. -/
  | malformed
  /-- Something is wrong with the node that these steps lead to. -/
  | fault (place : List SettingsStep) (fault : SettingsFault)
deriving DecidableEq, Repr

/-- What is wrong with a node, in words. -/
def SettingsFault.message : SettingsFault → String
  | unknownField name expected =>
    "unknown field `" ++ name ++ "`, expected one of "
      ++ ", ".intercalate (expected.map fun name => "`" ++ name ++ "`")
  | missingField name => "missing field `" ++ name ++ "`"
  | duplicateField name => "duplicate field `" ++ name ++ "`"
  | invalidType found expected => "invalid type: " ++ found ++ ", expected " ++ expected

/-- The text of a place below the place that `before` is the text of. -/
def placeText (before : String) : List SettingsStep → String
  | [] => before
  | .key name :: steps => placeText (if before.isEmpty then name else before ++ "." ++ name) steps
  | .item position :: steps => placeText (before ++ "[" ++ toString position ++ "]") steps

/-- What is wrong, in words. There are no words for a document that is not well-formed. -/
def SettingsError.message? : SettingsError → Option String
  | malformed => none
  | fault [] cause => some cause.message
  | fault place cause => some (placeText "" place ++ ": " ++ cause.message)

/-- Why there are no settings of a file. -/
inductive LoadError where
  /-- The file cannot be read. -/
  | unreadable (path : String) (fault : ReadFault)
  /-- Its text holds no settings. -/
  | unusable (path : String) (error : SettingsError)
deriving DecidableEq, Repr

/-- What is wrong, in words. -/
def LoadError.message : LoadError → String
  | unreadable path _ => "Failed to read config file " ++ path
  | unusable path _ => "Failed to parse config file " ++ path

end RequestDispatch
