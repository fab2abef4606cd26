import ArtifactRegistry.SortedMap
import ArtifactRegistry.Storage.Error
import ArtifactRegistry.Text.Split

/-! # File trees

A tree of directories and files, addressed by lists of names. Every operation either succeeds or
fails and leaves the tree alone; a write changes the one path it writes to. Walking down a path fails
at the first name that cannot be entered, so the error tells a missing name from a file in the way.
-/

namespace ArtifactRegistry

inductive FileTree where
  | file (contents : Bytes)
  | directory (entries : List (String × FileTree))
deriving Inhabited

namespace FileTree

abbrev Path := List String

/-- The names of a path in text form. Empty names and single dots name nothing, and two dots take
back the name before them. -/
def Path.ofText (text : String) : Path :=
  ((Text.splitAll '/' text).foldl (fun names name =>
    if name = "" ∨ name = "." then names
    else if name = ".." then names.drop 1
    else name :: names) []).reverse

def empty : FileTree := .directory []

def isDirectory : FileTree → Bool
  | .file _ => false
  | .directory _ => true

/-- Names are at most this many bytes long. Paths as a whole may be of any length. -/
def nameLimit : Nat := 255

/-- The size that a directory itself is reported to have. -/
def directorySize : Nat := 4096

/-- Enters a directory. -/
def child (name : String) : FileTree → Except MediumError FileTree
  | .file _ => .error .notDirectory
  | .directory entries =>
    if nameLimit < name.utf8ByteSize then .error .nameTooLong
    else match entries.lookup name with
      | some tree => .ok tree
      | none => .error .notFound

/-- What is at a path. -/
def find : Path → FileTree → Except MediumError FileTree
  | [], tree => .ok tree
  | name :: path, tree => (tree.child name).bind (find path)

/-- Names with a zero byte are refused before anything is looked up. -/
def checkNames (path : Path) : Except MediumError Unit :=
  if path.any fun name => name.toList.any (· = '\x00') then .error .zeroByteInName else .ok ()

def lookUp (path : Path) (tree : FileTree) : Except MediumError FileTree := do
  checkNames path
  find path tree

/-- The contents of a file. -/
def read (path : Path) (tree : FileTree) : Except MediumError Bytes := do
  match ← lookUp path tree with
  | .file contents => return contents
  | .directory _ => throw .isDirectory

/-- Whether a path in text form can only be that of a directory. -/
def namesDirectory (text : String) : Bool :=
  ["", ".", ".."].contains ((Text.splitAll '/' text).getLastD "")

/-- The contents of the file that a text names; the empty text names nothing. -/
def readNamed (text : String) (tree : FileTree) : Except MediumError Bytes := do
  if text = "" then throw .notFound
  let contents ← read (Path.ofText text) tree
  if namesDirectory text then throw .notDirectory
  return contents

/-- The size of a file or directory. -/
def size (path : Path) (tree : FileTree) : Except MediumError Nat := do
  match ← lookUp path tree with
  | .file contents => return contents.length
  | .directory _ => return directorySize

/-- The names of the directories in a directory, in ascending order. -/
def subdirectories (path : Path) (tree : FileTree) : Except MediumError (List String) := do
  match ← lookUp path tree with
  | .file _ => throw .notDirectory
  | .directory entries =>
    let names := (entries.filter fun entry => entry.2.isDirectory).map Prod.fst
    return names.mergeSort fun a b => decide (a ≤ b)

/-- Changes what is at a path whose directory exists; `change` gets what is there, if anything. -/
def update (change : Option FileTree → Except MediumError FileTree) :
    Path → FileTree → Except MediumError FileTree
  | _, .file _ => .error .notDirectory
  | [], .directory _ => .error .isDirectory
  | [name], .directory entries =>
    if nameLimit < name.utf8ByteSize then .error .nameTooLong
    else (change (entries.lookup name)).map fun tree =>
      .directory (SortedMap.insertEntry name tree entries)
  | name :: path, .directory entries =>
    if nameLimit < name.utf8ByteSize then .error .nameTooLong
    else match entries.lookup name with
      | none => .error .notFound
      | some tree => (update change path tree).map fun tree =>
        .directory (SortedMap.insertEntry name tree entries)

/-- Puts a file in place of the file at a path, if there is one. -/
def replaceFile (path : Path) (contents : Bytes) (tree : FileTree) :
    Except MediumError FileTree := do
  checkNames path
  tree.update (fun
    | some (.directory _) => .error .isDirectory
    | _ => .ok (.file contents)) path

/-- Puts a file at a path where nothing is. -/
def createFile (path : Path) (contents : Bytes) (tree : FileTree) :
    Except MediumError FileTree := do
  checkNames path
  tree.update (fun
    | some _ => .error .alreadyExists
    | none => .ok (.file contents)) path

/-- Makes the directories of a path that are missing. -/
def makeDirectories : Path → FileTree → Except MediumError FileTree
  | [], .directory entries => .ok (.directory entries)
  | [], .file _ => .error .alreadyExists
  | _ :: _, .file _ => .error .notDirectory
  | name :: path, .directory entries =>
    if nameLimit < name.utf8ByteSize then .error .nameTooLong
    else (makeDirectories path ((entries.lookup name).getD empty)).map fun tree =>
      .directory (SortedMap.insertEntry name tree entries)

def createDirectories (path : Path) (tree : FileTree) : Except MediumError FileTree := do
  checkNames path
  makeDirectories path tree

/-- The names of a path before the first that is too long. -/
def Path.fitting (path : Path) : Path := path.takeWhile fun name => name.utf8ByteSize ≤ nameLimit

/-- Removes whatever is at a path, with everything below it. -/
def remove : Path → FileTree → Except MediumError FileTree
  | _, .file _ => .error .notDirectory
  | [], .directory _ => .ok empty
  | [name], .directory entries =>
    match entries.lookup name with
    | none => .error .notFound
    | some _ => .ok (.directory (entries.filter fun entry => entry.1 ≠ name))
  | name :: path, .directory entries =>
    match entries.lookup name with
    | none => .error .notFound
    | some tree => (remove path tree).map fun tree =>
      .directory (SortedMap.insertEntry name tree entries)

mutual

/-- All files of a tree with their paths in text form, behind a given start of the path. -/
def filesBelow (start : String) : FileTree → List (String × Bytes)
  | .file contents => [(start, contents)]
  | .directory entries => filesOf start entries

def filesOf (start : String) : List (String × FileTree) → List (String × Bytes)
  | [] => []
  | (name, tree) :: rest =>
    filesBelow (if start = "" then name else s!"{start}/{name}") tree ++ filesOf start rest

end

/-- All files of a tree by ascending path. -/
def files (tree : FileTree) : List (String × Bytes) :=
  (filesBelow "" tree).mergeSort fun a b => decide (a.1 ≤ b.1)

/-- Puts a file at a path and makes the directories on the way. -/
def writeNew (path : Path) (contents : Bytes) (tree : FileTree) : Except MediumError FileTree := do
  let tree ← tree.createDirectories path.dropLast
  tree.replaceFile path contents

end FileTree

end ArtifactRegistry
