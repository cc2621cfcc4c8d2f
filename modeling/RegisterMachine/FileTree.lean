import RegisterMachine.Text.Blank

set_option autoImplicit false
set_option relaxedAutoImplicit false

/-!
# File trees

A working directory with the directories and files below it. Paths are walked part by part: every
part but the last must lead to a directory, and nothing above the working directory is known.

## Main definitions

* `RegisterMachine.normalizePath` — the shortest spelling of a path.
* `RegisterMachine.FileTree` — directories and files, by the names on the way to them.
* `RegisterMachine.FileTree.read?` — the content of a file.
* `RegisterMachine.FileTree.append` — adds to a file, which is created if necessary.
* `RegisterMachine.FileTree.makeParents` — creates the directories that a file needs.
-/

namespace RegisterMachine

open Text

/-- The parts of a path between slashes; some may be empty. -/
def pathParts (path : String) : List String :=
  (pieces (· = '/') path.toList).map String.ofList

/-- The root of a path: none, one slash, or two if there are exactly two at the start. -/
def pathRoot : List Char → List Char
  | '/' :: '/' :: '/' :: _ => ['/']
  | '/' :: '/' :: _ => ['/', '/']
  | '/' :: _ => ['/']
  | _ => []

/-- The parts of a path that say something: not the empty ones and not single points. -/
def pathNames (path : String) : List String :=
  (pathParts path).filter fun part => !part.isEmpty && part ≠ "."

/-- The shortest spelling of a path: no doubled slashes, no parts that are a single point. -/
def normalizePath (path : String) : String :=
  let shown := String.ofList (pathRoot path.toList) ++ "/".intercalate (pathNames path)
  if shown.isEmpty then "." else shown

/-- Directories and files below a working directory, by the names on the way to them. -/
structure FileTree where
  directories : List (List String) := []
  files : List (List String × List UInt8) := []
  deriving DecidableEq, Repr

namespace FileTree

/-- Whether a way leads to a directory. -/
def isDirectory (tree : FileTree) (way : List String) : Bool :=
  way.isEmpty || tree.directories.contains way

/-- The way one part further on, if it starts at a directory. -/
def walkPart (tree : FileTree) (way : List String) (part : String) : Option (List String) :=
  if !tree.isDirectory way then none
  else if part.isEmpty || part = "." then some way
  else if part = ".." then if way.isEmpty then none else some way.dropLast
  else some (way ++ [part])

/-- The way that a path from the working directory leads. -/
def walk (tree : FileTree) (path : String) : Option (List String) :=
  if path.isEmpty || path.toList.head? = some '/' then none
  else (pathParts path).foldlM tree.walkPart []

/-- The content of the file at a path, if there is one. -/
def read? (tree : FileTree) (path : String) : Option (List UInt8) :=
  (tree.walk path).bind (tree.files.lookup ·)

/-- Files with something added to one of them, which is created if necessary. -/
def appendIn (way : List String) (bytes : List UInt8) :
    List (List String × List UInt8) → List (List String × List UInt8)
  | [] => [(way, bytes)]
  | file :: rest =>
    if file.1 = way then (way, file.2 ++ bytes) :: rest else file :: appendIn way bytes rest

/-- The tree after adding to the file at a path. -/
def append (tree : FileTree) (path : String) (bytes : List UInt8) : FileTree :=
  match tree.walk path with
  | some way => { tree with files := appendIn way bytes tree.files }
  | none => tree

/-- The tree with one more directory, unless it is there. -/
def addDirectory (tree : FileTree) (way : List String) : FileTree :=
  if tree.isDirectory way then tree else { tree with directories := tree.directories ++ [way] }

/-- The tree with all directories on a way of names from the working directory. -/
def makeDirectories (tree : FileTree) (names : List String) : FileTree :=
  (names.foldl (fun (tree, way) name =>
    match tree.walkPart way name with
    | some next => (tree.addDirectory next, next)
    | none => (tree, way)) (tree, ([] : List String))).1

/-- The tree with all directories that the file at a path needs. -/
def makeParents (tree : FileTree) (path : String) : FileTree :=
  if path.toList.head? = some '/' then tree else tree.makeDirectories (pathNames path).dropLast

end FileTree

end RegisterMachine
