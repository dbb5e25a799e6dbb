import RequestDispatch.Text.Cut

/-!
# Paths

Paths as text, the way templates and configuration files are addressed. Joining and cutting
never look at the file system and never normalize: a path that was put together is shown as it
was put together.
-/

namespace RequestDispatch.Path

open Text

/-- Whether a path starts at the root. -/
def isAbsolute (path : String) : Bool := path.toList.head? == some '/'

/-- A path below a directory. An absolute path replaces the directory; otherwise a slash goes
between the two, unless the directory is empty or ends in one. -/
def join (directory path : String) : String :=
  if isAbsolute path then path
  else if directory.isEmpty || directory.toList.getLast? == some '/' then directory ++ path
  else directory ++ "/" ++ path

/-- The last component of a path: what follows its last slash. -/
def lastComponent (path : String) : String :=
  String.ofList (path.toList.reverse.takeWhile (· ≠ '/')).reverse

/-- A reversed path without the slashes it begins with and without components that are a
single dot. -/
def dropIdle : List Char → List Char
  | '/' :: rest => dropIdle rest
  | '.' :: '/' :: rest => dropIdle rest
  | rest => rest

/-- The directory that a path is in: the path without its last component and without what
names nothing before it. -/
def parent (path : String) : String :=
  match path.toList.reverse.dropWhile (· ≠ '/') with
  | [] => ""
  | _ :: before =>
    match dropIdle before with
    | [] => if isAbsolute path then "/" else ""
    | rest => String.ofList rest.reverse

/-- The last component of a path without its extension: up to its last dot, unless nothing or
only a dot comes before that. -/
def stem (path : String) : String :=
  let name := lastComponent path
  match name.toList.reverse.dropWhile (· ≠ '.') with
  | [] | [_] => name
  | _ :: before => if name = ".." then name else String.ofList before.reverse

end RequestDispatch.Path
