import RequestDispatch.FileSystem
import RequestDispatch.Text.Cut

/-!
# File Trees

A file system given as data: the directories and files below the working directory. Paths are
resolved one component after another. Nothing is known above the working directory, except
that it is in some directory.
-/

namespace RequestDispatch

open Text

/-- The directories and files below the working directory. -/
structure FileTree where
  /-- The components of each directory's path. -/
  directories : List (List String)
  /-- The components of each file's path, with its bytes. -/
  files : List (List String × ByteArray)

/-- A place that a path leads to. -/
inductive FilePlace where
  /-- The directory or file with these components below the working directory. -/
  | inside (components : List String)
  /-- A directory above the working directory. -/
  | above
deriving DecidableEq

namespace FileTree

/-- The tree without anything in it. -/
def empty : FileTree := ⟨[[]], []⟩

/-- The components of a path that name something. -/
def components (path : String) : List String :=
  (splitAt (· = '/') path).filter fun component => !component.isEmpty && component != "."

/-- Add a directory, and the directories it is in. -/
def addDirectory (tree : FileTree) (path : List String) : FileTree :=
  { tree with
    directories := (List.range (path.length + 1)).foldl
      (fun directories count =>
        let directory := path.take count
        if directories.contains directory then directories else directories ++ [directory])
      tree.directories }

/-- Add a file, and the directories it is in. -/
def addFile (tree : FileTree) (path : List String) (content : ByteArray) : FileTree :=
  let tree := tree.addDirectory path.dropLast
  { tree with files := tree.files ++ [(path, content)] }

/-- The bytes of a file. -/
def content? (tree : FileTree) (path : List String) : Option ByteArray :=
  (tree.files.find? (·.1 == path)).map (·.2)

/-- Whether a place is a directory. -/
def isDirectoryAt (tree : FileTree) : FilePlace → Bool
  | .inside path => tree.directories.contains path
  | .above => true

/-- Go from a place to what a component of a path names there. -/
def step (tree : FileTree) (place : FilePlace) (component : String) :
    Except ReadFault FilePlace :=
  if !tree.isDirectoryAt place then .error .notADirectory
  else if component.isEmpty || component == "." then .ok place
  else if component == ".." then
    match place with
    | .inside [] | .above => .ok .above
    | .inside path => .ok (.inside path.dropLast)
  else
    match place with
    | .above => .error .notFound
    | .inside path =>
      let next := path ++ [component]
      if tree.directories.contains next || (tree.content? next).isSome then .ok (.inside next)
      else .error .notFound

/-- The place that a path leads to. -/
def resolve (tree : FileTree) (path : String) : Except ReadFault FilePlace :=
  if path.isEmpty then .error .notFound
  else
    let start := if path.toList.head? = some '/' then FilePlace.above else .inside []
    (splitAt (· = '/') path).foldlM tree.step start

/-- Read the file that a path leads to. -/
def read (tree : FileTree) (path : String) : Except ReadFault String := do
  match ← tree.resolve path with
  | .above => .error .isADirectory
  | .inside place =>
    match tree.content? place with
    | none => .error .isADirectory
    | some bytes =>
      match String.fromUTF8? bytes with
      | some text => .ok text
      | none => .error .notText

/-- The file system of a tree. -/
def toFileSystem (tree : FileTree) : FileSystem where
  isDirectory path :=
    match tree.resolve path with
    | .ok place => tree.isDirectoryAt place
    | .error _ => false
  isFile path :=
    match tree.resolve path with
    | .ok place => !tree.isDirectoryAt place
    | .error _ => false
  read path := tree.read path

end FileTree

end RequestDispatch
