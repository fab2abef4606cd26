import ArtifactRegistry.Storage.Backend
import ArtifactRegistry.Storage.FileTree
import ArtifactRegistry.Text.Blank

/-! # A store in files

Everything lives below one directory of a file tree:

* `blobs/<algorithm>/<hex>/data` holds a payload, and `mediatype` beside it its media type;
* `<path>/<algorithm>/<hex>/link` holds a member of the link set at `<path>`.

Digests are checked before they become names, and a payload that does not hash to its digest is never
returned. Media types and links are written once. A payload is written again exactly when what is
there is not intact.

The path of a link set leads further down from the directory of the store. A text that starts at the top
or takes names back can lead out of it; where such a text leads is not modelled.
-/

namespace ArtifactRegistry

structure FileStore where
  /-- The directory of the store in text form, as log records show it. -/
  root : String
  /-- The tree that the directory is part of. -/
  tree : FileTree

namespace FileStore

def dataFile : String := "data"
def mediaTypeFile : String := "mediatype"
def linkFile : String := "link"

/-- The media type of a blob that has none. -/
def unknownMediaType : String := "application/octet-stream"

/-- The place of some names below the store's directory. -/
def place (store : FileStore) (names : FileTree.Path) : FileTree.Path :=
  FileTree.Path.ofText store.root ++ names

/-- The same place as log records show it. -/
def display (store : FileStore) (names : FileTree.Path) : String :=
  names.foldl (fun text name =>
    if text = "" then name
    else if text.toList.getLast? = some '/' then text ++ name
    else text ++ "/" ++ name) store.root

/-- The directory of a blob. -/
def blobNames (digest : Digest) : Except DigestError FileTree.Path :=
  digest.validate.map fun algorithm => ["blobs", algorithm.name, digest.hex]

variable {α : Type}

/-- Looks something up in the tree. -/
def look (find : FileStore → Except MediumError α) :
    Action FileStore StorageError (Except MediumError α) :=
  return find (← get).store

/-- Fails with the error of the medium. -/
def orFail : Except MediumError α → Action FileStore StorageError α
  | .ok value => pure value
  | .error error => throw (.medium error)

/-- Changes the tree; a failed change leaves it alone. -/
def change (edit : FileStore → Except MediumError FileTree) :
    Action FileStore StorageError (Except MediumError Unit) := do
  match ← look edit with
  | .ok tree =>
    modify fun world => { world with store := { world.store with tree } }
    return .ok ()
  | .error error => return .error error

def validated : Except DigestError α → Action FileStore StorageError α
  | .ok value => pure value
  | .error error => throw (.invalidDigest error)

/-- Makes a directory and those on the way to it. Names are taken one after the other, so a name that
is too long leaves the directories before it behind. -/
def makeDirectory (names : FileTree.Path) : Action FileStore StorageError Unit := do
  match ← change fun store => store.tree.createDirectories (store.place names) with
  | .ok () => return
  | .error .nameTooLong =>
    let _ ← change fun store => store.tree.createDirectories (store.place names).fitting
    throw (.medium .nameTooLong)
  | .error error => throw (.medium error)

/-- Writes a file unless something is there already. -/
def writeOnce (names : FileTree.Path) (contents : Bytes) : Action FileStore StorageError Unit := do
  match ← change fun store => store.tree.createFile (store.place names) contents with
  | .ok () => return
  | .error .alreadyExists => return
  | .error error => throw (.medium error)

/-- Whether the payload at a place has to be written: it is missing, or not intact. -/
def needsWriting (names : FileTree.Path) (digest : Digest) (payload : Bytes) :
    Action FileStore StorageError Bool := do
  let shown := (← get).store.display names
  match ← look fun store => store.tree.size (store.place names) with
  | .error .notFound => return true
  | .error error => throw (.medium error)
  | .ok size =>
    if size = payload.length then
      let found ← orFail (← look fun store => store.tree.read (store.place names))
      if ← validated (digest.verifies found) then return false
      Action.record .warn "replacing corrupted blob data"
        [("digest", .word digest.text), ("path", .word shown)]
      return true
    else
      Action.record .warn "replacing truncated blob data"
        [("digest", .word digest.text), ("path", .word shown), ("found", .number size),
          ("expected", .number payload.length)]
      return true

def putBlob (token : Token) (mediaType : String) (payload : Bytes) :
    Action FileStore StorageError Descriptor := do
  Action.ensureLive token
  let digest := Digest.ofBytes payload
  let names ← validated (blobNames digest)
  makeDirectory names
  writeOnce (names ++ [mediaTypeFile]) (Bytes.ofText mediaType)
  let data := names ++ [dataFile]
  if ← needsWriting data digest payload then
    orFail (← change fun store => store.tree.replaceFile (store.place data) payload)
  Action.record .debug "stored blob"
    [("digest", .word digest.text), ("size", .number payload.length)]
  return { mediaType, digest, size := Int64.ofNat payload.length }

/-- Decodes the contents of a text file. -/
def textOf (contents : Except MediumError Bytes) : Except MediumError String := do
  match Bytes.toText? (← contents) with
  | some text => return text
  | none => throw .invalidText

def statBlob (token : Token) (digest : Digest) : Action FileStore StorageError Descriptor := do
  Action.ensureLive token
  let names ← validated (blobNames digest)
  match ← look fun store => store.tree.size (store.place (names ++ [dataFile])) with
  | .error .notFound => throw (.blobUnknown digest)
  | .error error => throw (.medium error)
  | .ok size =>
    let read ← look fun store =>
      textOf (store.tree.read (store.place (names ++ [mediaTypeFile])))
    let mediaType ← match read with
      | .ok text => pure (if text = "" then unknownMediaType else text)
      | .error .notFound => pure unknownMediaType
      | .error error => throw (.medium error)
    return { mediaType, digest, size := Int64.ofNat size }

def getBlob (token : Token) (digest : Digest) : Action FileStore StorageError Bytes := do
  Action.ensureLive token
  let names ← validated (blobNames digest)
  let data := names ++ [dataFile]
  match ← look fun store => store.tree.read (store.place data) with
  | .error .notFound => throw (.blobUnknown digest)
  | .error error => throw (.medium error)
  | .ok contents =>
    if ← validated (digest.verifies contents) then return contents
    Action.record .warn "blob failed integrity check"
      [("digest", .word digest.text), ("path", .word ((← get).store.display data))]
    throw (.corrupted digest)

def addLink (token : Token) (path : String) (digest : Digest) :
    Action FileStore StorageError Unit := do
  Action.ensureLive token
  let algorithm ← validated digest.validate
  let names := FileTree.Path.ofText path ++ [algorithm.name, digest.hex]
  makeDirectory names
  writeOnce (names ++ [linkFile]) (Bytes.ofText digest.text)

/-- The member that a link file holds; there is none when the file is missing or malformed. -/
def readLink (path : String) (names : FileTree.Path) :
    Action FileStore StorageError (List Digest) := do
  match ← look fun store => textOf (store.tree.read (store.place (names ++ [linkFile]))) with
  | .error .notFound => return []
  | .error error => throw (.medium error)
  | .ok text =>
    match Digest.parse (Text.trim text) with
    | .ok digest => return [digest]
    | .error error =>
      let shown := (← get).store.display (path :: names.drop (FileTree.Path.ofText path).length)
      Action.record .warn "skipping malformed link"
        [("link", .word shown), ("error", .word error.message)]
      return []

/-- The members under one name below a link set; only names of algorithms hold members. -/
def listAlgorithm (token : Token) (path name : String) :
    Action FileStore StorageError (List Digest) := do
  Action.ensureLive token
  if (Algorithm.ofName? name).isNone then return []
  let names := FileTree.Path.ofText path ++ [name]
  let links ← orFail (← look fun store => store.tree.subdirectories (store.place names))
  let members ← links.mapM fun link => readLink path (names ++ [link])
  return members.flatten

def listLinks (token : Token) (path : String) : Action FileStore StorageError (List Digest) := do
  Action.ensureLive token
  let names := FileTree.Path.ofText path
  match ← look fun store => store.tree.subdirectories (store.place names) with
  | .error .notFound => throw (.pathNotFound path)
  | .error error => throw (.medium error)
  | .ok algorithms =>
    let members ← algorithms.mapM (listAlgorithm token path)
    return members.flatten

instance : Backend FileStore where
  blobStoreName := "filesystem"
  linkStoreName := "filesystem"
  putBlob := putBlob
  statBlob := statBlob
  getBlob := getBlob
  addLink := addLink
  listLinks := listLinks
  linkBound store := store.tree.files.length

end FileStore

end ArtifactRegistry
