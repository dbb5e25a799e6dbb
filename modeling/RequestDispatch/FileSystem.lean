import RequestDispatch.NameMap

/-!
# File Systems and Environments

What the library asks of the world around it, as data. Of the files it asks whether a path names a
directory or a file, and what a file holds. Nothing here writes. The structure stands for the file
system at one moment, so that results which depend on files are functions of it. The values of
environment variables are a map.
-/

namespace RequestDispatch

/-- Why a file could not be read. -/
inductive ReadFault where
  /-- Nothing has this path. -/
  | notFound
  /-- The path goes through a file as if it were a directory. -/
  | notADirectory
  /-- The path names a directory. -/
  | isADirectory
  /-- The file's bytes are not UTF-8. -/
  | notText
deriving DecidableEq, Repr

namespace ReadFault

/-- The name of the kind of fault. -/
def kind : ReadFault → String
  | notFound => "NotFound"
  | notADirectory => "NotADirectory"
  | isADirectory => "IsADirectory"
  | notText => "InvalidData"

/-- What is wrong, in words. -/
def reason : ReadFault → String
  | notFound => "No such file or directory (os error 2)"
  | notADirectory => "Not a directory (os error 20)"
  | isADirectory => "Is a directory (os error 21)"
  | notText => "stream did not contain valid UTF-8"

end ReadFault

/-- A file system at one moment. -/
structure FileSystem where
  /-- Whether a path names a directory. -/
  isDirectory : String → Bool
  /-- Whether a path names a file. -/
  isFile : String → Bool
  /-- The text of the file that a path names. -/
  read : String → Except ReadFault String

/-- The values of environment variables. -/
abbrev Environment := NameMap String

end RequestDispatch
