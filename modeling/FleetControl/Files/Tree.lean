import FleetControl.Error
import FleetControl.Files.Path
import FleetControl.Keyed

/-!
# File trees

A tree of directories, regular files and symbolic links, and how a path leads to an entry of it. An
entry is found by its key, the list of names from the root; the root itself is a directory that
always exists, and relative paths start there. Links are followed everywhere but, where an operation
says so, at the end of a path; a path that leads through more than forty links fails.
-/

namespace FleetControl

/-- What stands at a place of the tree. -/
inductive FileEntry where
  | directory
  | file (text : String)
  | link (target : String)
deriving DecidableEq, Repr, Inhabited

/-- The names from the root to an entry. -/
abbrev FileKey := List String

/-- A file tree, as the list of its entries below the root. -/
structure Files where
  entries : Keyed FileKey FileEntry := []
deriving DecidableEq, Repr, Inhabited

/-- A path taken apart: its nonempty components, and whether a slash follows the last one. -/
structure PathParts where
  parts : List String
  trailing : Bool
deriving DecidableEq, Repr

/-- Takes a path apart, or says why no operation can take it: it is empty, too long or holds a null
character. -/
def PathParts.ofPath (path : String) : Except IoFault PathParts :=
  if path.toList.contains '\x00' then .error .nullInPath
  else if path.isEmpty then .error .notFound
  else if 4096 ≤ path.utf8ByteSize then .error .nameTooLong
  else
    let parts := (Path.splitSlashes path.toList).filter (· ≠ []) |>.map String.ofList
    .ok { parts, trailing := path.toList.getLast? = some '/' && parts ≠ [] }

namespace Files

/-- The entry with a key. The root is a directory. -/
def entry? (files : Files) (key : FileKey) : Option FileEntry :=
  if key = [] then some .directory else files.entries.find? key

/-- Puts an entry in place. -/
def put (files : Files) (key : FileKey) (entry : FileEntry) : Files :=
  { entries := files.entries.set key entry }

/-- Removes an entry and everything below it. -/
def prune (files : Files) (key : FileKey) : Files :=
  { entries := files.entries.filter fun entry => ¬ key.isPrefixOf entry.1 }

/-- Removes everything below an entry, which stays. -/
def pruneBelow (files : Files) (key : FileKey) : Files :=
  { entries := files.entries.filter fun entry => entry.1 = key ∨ ¬ key.isPrefixOf entry.1 }

/-- The longest name of an entry, in bytes. -/
def maxNameBytes : Nat := 255

/-- Follows names from the directory `dir`. The result is the key of the last entry, which need not
exist; every entry before it must lead to a directory. A link at the end is followed only if
`followLast` is set. The first argument bounds the links that may still be followed. -/
def walk (files : Files) (followLast : Bool) : Nat → FileKey → List String → Except IoFault FileKey
  | _, dir, [] => .ok dir
  | links, dir, name :: rest =>
      if name = "." then walk files followLast links dir rest
      else if name = ".." then walk files followLast links dir.dropLast rest
      else if maxNameBytes < name.utf8ByteSize then .error .nameTooLong
      else
        let key := dir ++ [name]
        match files.entry? key with
        | none => if rest = [] then .ok key else .error .notFound
        | some .directory => walk files followLast links key rest
        | some (.file _) => if rest = [] then .ok key else .error .notADirectory
        | some (.link target) =>
            if rest = [] ∧ ¬ followLast then .ok key
            else
              match links with
              | 0 => .error .linkLoop
              | left + 1 =>
                  let start := if Path.isAbsolute target then [] else dir
                  let parts := (Path.splitSlashes target.toList).filter (· ≠ [])
                  walk files followLast left start (parts.map String.ofList ++ rest)
termination_by links _ names => (links, names.length)

/-- How many links a path may lead through. -/
def maxLinks : Nat := 40

/-- The key to which a path leads. A slash at the end asks for a directory, through a link too. -/
def locate (files : Files) (followLast : Bool) (path : String) : Except IoFault FileKey := do
  let ⟨parts, trailing⟩ ← PathParts.ofPath path
  let key ← files.walk (followLast || trailing) maxLinks [] parts
  match files.entry? key with
  | none => if trailing then .error .notFound else .ok key
  | some .directory => .ok key
  | some _ => if trailing then .error .notADirectory else .ok key

/-- The key and the entry to which a path leads, if there is one. -/
def stat (files : Files) (followLast : Bool) (path : String) :
    Except IoFault (FileKey × FileEntry) := do
  let key ← files.locate followLast path
  match files.entry? key with
  | none => .error .notFound
  | some entry => .ok (key, entry)

/-- The path leads to a directory. -/
def isDirectory (files : Files) (path : String) : Bool :=
  match files.stat true path with
  | .ok (_, .directory) => true
  | _ => false

/-- The path leads to a regular file. -/
def isFile (files : Files) (path : String) : Bool :=
  match files.stat true path with
  | .ok (_, .file _) => true
  | _ => false

/-- The path leads to something. -/
def exists? (files : Files) (path : String) : Bool :=
  match files.stat true path with
  | .ok _ => true
  | .error _ => false

/-- The text of a regular file. -/
def readText (files : Files) (path : String) : Except IoFault String := do
  match ← files.stat true path with
  | (_, .file text) => .ok text
  | _ => .error .isADirectory

/-- Makes one directory. The path may end in slashes, but nothing may stand at its end yet, not even
a link that leads nowhere. -/
def makeDirectory (files : Files) (path : String) : Except IoFault Files := do
  let ⟨parts, _⟩ ← PathParts.ofPath path
  let key ← files.walk false maxLinks [] parts
  match parts.getLast? with
  | some "." => .error .alreadyExists
  | some ".." => .error .alreadyExists
  | _ =>
      match files.entry? key with
      | some _ => .error .alreadyExists
      | none => .ok (files.put key .directory)

/-- Makes a directory and every missing directory on the way to it. A directory that exists is left
alone. The tree is given with a failure too, since directories on the way may have been made by then.
The first argument bounds the number of parents that are made. -/
def makeDirectories (files : Files) : Nat → String → Files × Except IoFault Unit
  | 0, _ => (files, .error .invalidArgument)
  | fuel + 1, path =>
      if path.isEmpty then (files, .ok ())
      else
        match files.makeDirectory path with
        | .ok made => (made, .ok ())
        | .error .notFound =>
            match Path.parent? path with
            | none => (files, .error (.other "failed to create whole tree"))
            | some parent =>
                match files.makeDirectories fuel parent with
                | (files, .error fault) => (files, .error fault)
                | (files, .ok ()) => finish files path
        | .error fault => settle files path fault
where
  /-- Makes the directory once its parents exist. -/
  finish (files : Files) (path : String) : Files × Except IoFault Unit :=
    match files.makeDirectory path with
    | .ok made => (made, .ok ())
    | .error fault => settle files path fault
  /-- A directory that cannot be made is no failure if it exists. -/
  settle (files : Files) (path : String) (fault : IoFault) : Files × Except IoFault Unit :=
    (files, if files.isDirectory path then .ok () else .error fault)

/-- Makes a directory and its missing ancestors. -/
def makeAll (files : Files) (path : String) : Files × Except IoFault Unit :=
  files.makeDirectories (path.length + 1) path

/-- The key of the directory to which names lead. -/
def directoryKey (files : Files) (parts : List String) : Except IoFault FileKey := do
  let key ← files.walk true maxLinks [] parts
  match files.entry? key with
  | some .directory => .ok key
  | some _ => .error .notADirectory
  | none => .error .notFound

/-- The key at which a path names a regular file for writing, whether it exists yet or not. A path
with a slash at its end never does. -/
def fileKey (files : Files) (path : String) : Except IoFault FileKey := do
  let ⟨parts, trailing⟩ ← PathParts.ofPath path
  if trailing then
    let _ ← files.directoryKey parts.dropLast
    .error .isADirectory
  else
    let key ← files.walk true maxLinks [] parts
    match files.entry? key with
    | some .directory => .error .isADirectory
    | _ => .ok key

/-- Replaces the text of a file, which is made if it is missing. -/
def writeText (files : Files) (path text : String) : Except IoFault Files := do
  let key ← files.fileKey path
  return files.put key (.file text)

/-- Appends to the text of a file, which is made if it is missing. -/
def appendText (files : Files) (path text : String) : Except IoFault Files := do
  let key ← files.fileKey path
  let old := match files.entry? key with | some (.file old) => old | _ => ""
  return files.put key (.file (old ++ text))

/-- Removes a file or a link, but not what a link leads to. -/
def removeFile (files : Files) (path : String) : Except IoFault Files := do
  let ⟨parts, trailing⟩ ← PathParts.ofPath path
  let key ← files.walk false maxLinks [] parts
  match files.entry? key with
  | none => .error .notFound
  | some .directory => .error .isADirectory
  | some _ => if trailing then .error .notADirectory else .ok (files.prune key)

/-- Makes a link. -/
def makeLink (files : Files) (target path : String) : Except IoFault Files := do
  let ⟨parts, trailing⟩ ← PathParts.ofPath path
  let key ← files.walk false maxLinks [] parts
  match files.entry? key with
  | some _ => .error .alreadyExists
  | none => if trailing then .error .notFound else .ok (files.put key (.link target))

/-- Removes the empty directory `key` by the path that leads to it. A path that ends in a dot, or in
a slash after a link, names a directory but not the place that holds it. -/
def removeEmpty (files : Files) (key : FileKey) (path : PathParts) : Except IoFault Files := do
  let parent ← files.directoryKey path.parts.dropLast
  match path.parts.getLast? with
  | none => .error .invalidArgument
  | some "." => .error .invalidArgument
  | some ".." => .error .directoryNotEmpty
  | some name =>
      if path.trailing ∧ parent ++ [name] ≠ key then .error .notADirectory
      else .ok (files.prune key)

/-- Removes a directory with everything below it. A link at the end of the path is removed itself
and nothing that it leads to; links inside the directory are removed, not followed. The directory is
emptied before it is removed by its path, which may lead nowhere by then. The tree is given with a
failure too, since the contents are gone by then. -/
def removeTree (files : Files) (path : String) : Files × Except IoFault Unit :=
  match files.stat false path with
  | .error fault => (files, .error fault)
  | .ok (key, .link _) => (files.prune key, .ok ())
  | .ok (_, .file _) => (files, .error .notADirectory)
  | .ok (key, .directory) =>
      let emptied := files.pruneBelow key
      match (PathParts.ofPath path).bind (emptied.removeEmpty key) with
      | .ok removed => (removed, .ok ())
      | .error fault => (emptied, .error fault)

/-- The names of the entries directly in a directory. -/
def childNames (files : Files) (key : FileKey) : List String :=
  files.entries.filterMap fun entry =>
    if entry.1 ≠ [] ∧ entry.1.dropLast = key then entry.1.getLast? else none

/-- Everything below a directory, each with its path relative to it; directories end in a slash.
Links to directories are followed. The first argument bounds the depth. -/
def below (files : Files) : Nat → FileKey → String → List String
  | 0, _, _ => []
  | depth + 1, key, relative =>
      (files.childNames key).flatMap fun name =>
        let path := relative ++ name
        match files.walk true maxLinks key [name] with
        | .error _ => [path]
        | .ok target =>
            match files.entry? target with
            | some .directory => (path ++ "/") :: files.below depth target (path ++ "/")
            | _ => [path]

/-- What a path leads to, for display. -/
inductive Listing where
  | absent
  | regular
  | contents (paths : List String)
deriving DecidableEq, Repr

/-- The sorted contents of the directory to which a path leads. The empty path is the root. -/
def listing (files : Files) (path : String) : Listing :=
  let sorted (key : FileKey) : Listing :=
    .contents ((files.below 64 key "").mergeSort fun a b => a ≤ b)
  if path.isEmpty then sorted []
  else
    match files.stat true path with
    | .error _ => .absent
    | .ok (key, .directory) => sorted key
    | .ok _ => .regular

end Files

end FleetControl
