import Rubric.Bytes
import Rubric.Error
import Rubric.File.Path

/-! A tree of files as a value. Every place in it is given by the names that lead there from the
root; the root is a directory. -/
namespace Rubric

/-- What stands at a place in a tree. -/
inductive FileNode where
  | file (content : Bytes)
  | directory
deriving DecidableEq, Repr

/-- A place in a tree, by the names that lead there from the root. -/
abbrev Place := List Text

/-- A tree of files, and the working directory, from which paths start that do not start from the
root. -/
structure FileTree where
  current : Place
  nodes : List (Place × FileNode)
deriving Repr

namespace FileTree

def node? (tree : FileTree) (place : Place) : Option FileNode :=
  if place.isEmpty then some .directory else tree.nodes.lookup place

/-- Puts something at a place, over what stood there. -/
def put (tree : FileTree) (place : Place) (node : FileNode) : FileTree :=
  { tree with nodes := (place, node) :: tree.nodes.filter (·.1 ≠ place) }

def erase (tree : FileTree) (place : Place) : FileTree :=
  { tree with nodes := tree.nodes.filter (·.1 ≠ place) }

/-- Takes one name of a path from a place, which must be a directory. -/
def enter (tree : FileTree) (place : Place) (name : Text) : Except FileFault Place :=
  match tree.node? place with
  | none => .error .notFound
  | some (.file _) => .error .notDirectory
  | some .directory =>
    if name.isEmpty || name = ['.'] then .ok place
    else if name = ['.', '.'] then .ok place.dropLast
    else .ok (place ++ [name])

/-- The place that names lead to from the start of a path. Something need not stand there, but all
places on the way are directories. -/
def follow (tree : FileTree) (path : Text) (names : List Text) : Except FileFault Place :=
  if path.isEmpty then .error .notFound
  else if path.contains '\x00' then .error .invalidName
  else names.foldlM tree.enter (if path.head? = some '/' then [] else tree.current)

/-- The place that a path leads to. A slash at the end asks for a directory. -/
def locate (tree : FileTree) (path : Text) : Except FileFault Place :=
  tree.follow path (Text.splitAll '/' path)

def locateBare (tree : FileTree) (path : Text) : Except FileFault Place :=
  tree.follow path ((Text.splitAll '/' path).reverse.dropWhile List.isEmpty).reverse

def read (tree : FileTree) (path : Text) : Except FileFault Bytes := do
  match tree.node? (← tree.locate path) with
  | none => .error .notFound
  | some .directory => .error .isDirectory
  | some (.file content) => .ok content

/-- The place of a file that is opened to be written. -/
def target (tree : FileTree) (path : Text) : Except FileFault Place := do
  let place ← tree.locateBare path
  if path.getLast? = some '/' || tree.node? place = some .directory then .error .isDirectory
  else .ok place

/-- Makes a directory where nothing stands. -/
def makeDirectory (tree : FileTree) (path : Text) : Except FileFault FileTree := do
  let place ← tree.locateBare path
  if (tree.node? place).isSome then .error .alreadyExists
  else .ok (tree.put place .directory)

def isDirectory (tree : FileTree) (path : Text) : Bool :=
  match tree.locate path with
  | .ok place => tree.node? place = some .directory
  | .error _ => false

def ensureDirectory (tree : FileTree) (path : Text) : Except FileFault FileTree :=
  match tree.makeDirectory path with
  | .error .alreadyExists => if tree.isDirectory path then .ok tree else .error .alreadyExists
  | made => made

/-- Makes a directory and those above it that are missing, as many as the bound. Directories that
were made stay where a later one cannot be made. -/
def ensureAll : Nat → FileTree → Text → Except FileFault Unit × FileTree
  | 0, tree, _ => (.error .notFound, tree)
  | bound + 1, tree, path =>
    match tree.ensureDirectory path with
    | .ok tree => (.ok (), tree)
    | .error .notFound =>
      match Path.parent? path with
      | some (c :: rest) =>
        match ensureAll bound tree (c :: rest) with
        | (.error fault, tree) => (.error fault, tree)
        | (.ok (), tree) =>
          match tree.ensureDirectory path with
          | .ok tree => (.ok (), tree)
          | .error fault => (.error fault, tree)
      | _ => (.error .notFound, tree)
    | .error fault => (.error fault, tree)

/-- Makes a directory and those above it that are missing. A parent is shorter than its path, so the
length bounds their number. -/
def makeDirectories (tree : FileTree) (path : Text) : Except FileFault Unit × FileTree :=
  ensureAll (path.length + 1) tree path

/-- Takes away a file. Where there is none nothing happens. -/
def remove (tree : FileTree) (path : Text) : FileTree :=
  match tree.locate path with
  | .error _ => tree
  | .ok place =>
    match tree.node? place with
    | some (.file _) => tree.erase place
    | _ => tree

end FileTree

end Rubric
