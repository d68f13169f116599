import NativeBindings.Shipped

/-!
# Disks and trees of files

The operations that a run needs of a disk, over any monad, and a disk in memory.
-/
namespace NativeBindings

/-! ## Disks -/

inductive DiskError where
  | noEntry
  | isDirectory
  | notDirectory
  | fileExists
  | busy
  | nameTooLong
  | other (message : String)
  deriving DecidableEq, Repr, Inhabited

def DiskError.message : DiskError → String
  | noEntry => "ENOENT"
  | isDirectory => "EISDIR"
  | notDirectory => "ENOTDIR"
  | fileExists => "EEXIST"
  | busy => "EBUSY"
  | nameTooLong => "ENAMETOOLONG"
  | other message => message

/-- The operations of a disk. All but the last two may fail. -/
structure Disk (m : Type → Type) where
  read (path : String) : m (Except DiskError String)
  /-- The text of a schema that is installed with the program. -/
  readBuiltin (schema : BuiltinSchema) : m (Except DiskError String)
  /-- Creates a directory and those above it, as far as they are missing. -/
  makeDirectories (path : String) : m (Except DiskError Unit)
  write (path text : String) : m (Except DiskError Unit)
  /-- Moves a file to another path, and replaces the file there. -/
  rename (source target : String) : m (Except DiskError Unit)
  remove (path : String) : m Unit
  /-- A path beside another one that nothing else uses. -/
  beside (path : String) : m String

/-- The path of the directory that holds a path, by its text: what stands before the slash in front
of the last name. -/
def parentPath (path : String) : String :=
  match (path.toList.reverse.dropWhile (· == '/')).dropWhile (· != '/') with
  | [] => if path.toList.head? == some '/' then "/" else "."
  | ['/'] => "/"
  | _ :: parent => String.ofList parent.reverse

namespace Disk

/-- Writes beside the target first, so that a reader never sees a partial file
(`writeAtomically`). If the writing or the moving fails, what was written is removed. -/
def replaceFile {m : Type → Type} [Monad m] (disk : Disk m) (path text : String) :
    m (Except DiskError Unit) := do
  match ← disk.makeDirectories (parentPath path) with
  | .error e => return .error e
  | .ok () =>
    let draft ← disk.beside path
    let moved ← match ← disk.write draft text with
      | .error e => pure (.error e)
      | .ok () => disk.rename draft path
    match moved with
    | .error e =>
      disk.remove draft
      return .error e
    | .ok () => return .ok ()

end Disk

/-!
## Trees of files

A path is followed name by name from the directory in which a run works, and only a directory leads
on, so that it matters what the names on the way are even if the path goes up again.
-/

/-- A path below the working directory. -/
abbrev TreePath := List String

namespace TreePath

/-- Follows one name: the empty one and `.` stay, and `..` goes up. -/
def follow (path : TreePath) (name : String) : TreePath :=
  if name = "" || name = "." then path
  else if name = ".." then path.dropLast
  else path ++ [name]

def names (text : String) : List String := (text.toList.splitOn '/').map String.ofList

def ofText (text : String) : TreePath := (names text).foldl follow []

def text (path : TreePath) : String := String.intercalate "/" path

/-- All paths that lead to a path, itself left out, the shortest first. -/
def above (path : TreePath) : List TreePath := (List.range path.length).map path.take

end TreePath

structure FileTree where
  files : List (TreePath × String) := []
  directories : List TreePath := [[]]
  deriving DecidableEq, Repr, Inhabited

namespace FileTree

def file? (tree : FileTree) (path : TreePath) : Option String := tree.files.lookup path

def isDirectory (tree : FileTree) (path : TreePath) : Bool := tree.directories.contains path

def longestName : Nat := 255

def longestPath : Nat := 4095

def enter (tree : FileTree) (place : TreePath) (name : String) : Except DiskError TreePath :=
  if (tree.file? place).isSome then .error .notDirectory
  else if !tree.isDirectory place then .error .noEntry
  else if longestName < name.utf8ByteSize then .error .nameTooLong
  else .ok (place.follow name)

/-- The place that the text of a path leads to. Nothing has to be there yet, unless the path goes
on. -/
def locate (tree : FileTree) (path : String) : Except DiskError TreePath :=
  if longestPath < path.utf8ByteSize then .error .nameTooLong
  else (TreePath.names path).foldlM tree.enter []

def put (tree : FileTree) (path : TreePath) (text : String) : FileTree :=
  if (tree.file? path).isSome then
    { tree with files := tree.files.map fun file => if file.1 == path then (path, text) else file }
  else { tree with files := tree.files ++ [(path, text)] }

def drop (tree : FileTree) (path : TreePath) : FileTree :=
  { tree with files := tree.files.filter (·.1 != path) }

def read (tree : FileTree) (path : String) : Except DiskError String := do
  let place ← tree.locate path
  match tree.file? place with
  | some text => return text
  | none => throw (if tree.isDirectory place then .isDirectory else .noEntry)

/-- Follows names from a place, and creates the directories that are missing. -/
def makeFrom (tree : FileTree) (place : TreePath) : List String → Except DiskError FileTree
  | [] => .ok tree
  | name :: rest => do
    let next ← tree.enter place name
    if (tree.file? next).isSome then throw (if rest.isEmpty then .fileExists else .notDirectory)
    let tree := if tree.isDirectory next then tree
      else { tree with directories := tree.directories ++ [next] }
    tree.makeFrom next rest

def makeDirectories (tree : FileTree) (path : String) : Except DiskError FileTree :=
  if longestPath < path.utf8ByteSize then .error .nameTooLong
  else tree.makeFrom [] (TreePath.names path)

def write (tree : FileTree) (path text : String) : Except DiskError FileTree := do
  let place ← tree.locate path
  if tree.isDirectory place then throw .isDirectory
  return tree.put place text

/-- Moves a file. The path it is moved to may not end in dots or in a slash. -/
def rename (tree : FileTree) (source target : String) : Except DiskError FileTree := do
  let origin ← tree.locate source
  let some text := tree.file? origin | throw .noEntry
  let names := (TreePath.names target).reverse
  let named := names.dropWhile (· = "")
  if named.head?.any fun name => name = "." || name = ".." then
    let _ ← (named.drop 1).reverse.foldlM tree.enter []
    throw .busy
  let place ← named.reverse.foldlM tree.enter []
  if names.head? = some "" then throw .notDirectory
  if tree.isDirectory place then throw .isDirectory
  return (tree.drop origin).put place text

def remove (tree : FileTree) (path : String) : FileTree :=
  match tree.locate path with
  | .ok place => tree.drop place
  | .error _ => tree

/-- The tree of some directories and files; the directories above them are there too. -/
def ofList (directories : List String) (files : List (String × String)) : FileTree :=
  let directories := directories.map TreePath.ofText
  let files := files.map fun (path, text) => (TreePath.ofText path, text)
  let all := directories.flatMap (fun path => TreePath.above path ++ [path]) ++
    files.flatMap (fun file => TreePath.above file.1)
  { files, directories := ([] :: all).eraseDups }

/-- An operation on the tree, as it is when it succeeds and as it was when it fails. -/
def change (step : FileTree → Except DiskError FileTree) :
    StateM FileTree (Except DiskError Unit) :=
  fun tree => match step tree with
    | .ok next => (.ok (), next)
    | .error e => (.error e, tree)

/-- Drafts beside a file are named after it and a number. -/
def disk (number : Nat) : Disk (StateM FileTree) where
  read path := fun tree => (tree.read path, tree)
  readBuiltin schema := pure (.ok schema.text)
  makeDirectories path := change (·.makeDirectories path)
  write path text := change (·.write path text)
  rename source target := change (·.rename source target)
  remove path := fun tree => ((), tree.remove path)
  beside path := fun tree => (s!"{path}.{number}.tmp", tree)

end FileTree
end NativeBindings
