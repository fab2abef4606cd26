import ArtifactRegistry.Program

/-! # Running the program on the files of a computer

The files that a run may look at are read into a tree: the configuration, the input of the command
and the directory of the store. The run itself is a function of that tree, and what it changed in the
directory of the store is written back.
-/

namespace ArtifactRegistry.Main

/-- The files below a path, if there is anything. -/
partial def load (path : String) : IO (Option FileTree) := do
  let place := (← IO.currentDir) / path
  if ← place.isDir then
    let mut entries : List (String × FileTree) := []
    for entry in ← place.readDir do
      if let some tree ← load s!"{path}/{entry.fileName}" then
        entries := SortedMap.insertEntry entry.fileName tree entries
    return some (.directory entries)
  else if ← place.pathExists then
    return some (.file (← IO.FS.readBinFile place).toList)
  else return none

/-- Writes the files of a tree that were not there before. -/
partial def save (path : String) (before : Option FileTree) : FileTree → IO Unit
  | .file contents => do
    let same := match before with
      | some (.file found) => found == contents
      | _ => false
    if !same then IO.FS.writeBinFile ((← IO.currentDir) / path) ⟨contents.toArray⟩
  | .directory entries => do
    IO.FS.createDirAll ((← IO.currentDir) / path)
    let found := match before with
      | some (.directory entries) => entries
      | _ => []
    for (name, tree) in entries do
      save s!"{path}/{name}" (found.lookup name) tree

/-- Puts the files below a path into a tree. -/
def collect (tree : FileTree) (path : String) : IO FileTree := do
  match FileTree.Path.ofText path, ← load path with
  | [], some found => return found
  | names, some found =>
    let grown := (tree.createDirectories names.dropLast).bind
      (FileTree.update (fun _ => .ok found) names)
    return grown.toOption.getD tree
  | _, none => return tree

/-- The file that a command reads. -/
def inputFile : Command → Option String
  | .blobPut _ file | .put _ _ _ file => some file
  | _ => none

/-- The directory of the store, and all files that a command line may look at. -/
def gather (arguments : List String) : IO (String × FileTree) := do
  let .ok invocation := Invocation.parse arguments | return ("", .empty)
  let configured ← (invocation.configuration.toList).foldlM collect .empty
  let configuration := (invocation.configuration.mapM (Configuration.load configured)).toOption
  let root := ((configuration.bind id).getD {}).root
  let tree ← collect configured root
  return (root, ← (inputFile invocation.command).toList.foldlM collect tree)

end ArtifactRegistry.Main

open ArtifactRegistry in
def main (arguments : List String) : IO UInt32 := do
  let (root, tree) ← Main.gather arguments
  let outcome := Program.run arguments (← IO.getEnv "RUST_LOG") tree
  let names := FileTree.Path.ofText root
  if let .ok changed := outcome.tree.lookUp names then
    Main.save (if root = "" then "." else root) (tree.lookUp names).toOption changed
  for output in outcome.output do
    match output, outcome.format with
    | .printed text, _ => IO.print text
    | .record record, .text => IO.println record.toText
    | .record record, .json => IO.println ((Bytes.toText? record.toJson.compact).getD "")
  if let some mistake := outcome.mistake then IO.eprintln s!"error: {mistake.message}"
  return UInt32.ofNat outcome.code
