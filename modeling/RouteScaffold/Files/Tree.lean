import RouteScaffold.Failure
import RouteScaffold.SortedMap

/-!
A file system in memory: directories and files by their place below the root.

A path is followed from the current directory, name by name. Every name but the last has to be there
and has to be a directory, `..` leads to the directory above, and a slash at the end asks for a
directory.
-/

namespace RouteScaffold

inductive FileContents where
  | text (s : String)
  /-- Bytes that are no text. -/
  | bytes
  deriving DecidableEq, Repr

inductive FileNode where
  | directory
  | file (contents : FileContents)
  deriving DecidableEq, Repr

/-- A place in the file system: the names on the way from the root. -/
abbrev Place := List String

structure FileTree where
  nodes : SortedMap Place FileNode
  /-- The directory that relative paths start from. -/
  current : Place

/-- An action on a file system; what it changed before a failure stays changed. -/
abbrev DiskM := ExceptT IoFault (StateM FileTree)

namespace FileTree

/-- A file system with one directory below the root, which is the current one. -/
def fresh : FileTree :=
  { nodes := SortedMap.empty.insert ["work"] .directory, current := ["work"] }

def node? (tree : FileTree) (place : Place) : Option FileNode :=
  if place.isEmpty then some .directory else tree.nodes.get? place

def setNode (tree : FileTree) (place : Place) (node : FileNode) : FileTree :=
  { tree with nodes := tree.nodes.insert place node }

def maxNameBytes : Nat := 255

/-- Paths are shorter than this. -/
def maxPathBytes : Nat := 4096

/-- Follows names from a place; the last of them need not be there. -/
def follow (tree : FileTree) (place : Place) : List String → Except IoFault Place
  | [] => .ok place
  | name :: names =>
    match tree.node? place with
    | none => .error .notFound
    | some (.file _) => .error .notDirectory
    | some .directory =>
      if Path.isNoise name then tree.follow place names
      else if name == ".." then tree.follow place.dropLast names
      else if maxNameBytes < name.utf8ByteSize then .error .nameTooLong
      else tree.follow (place ++ [name]) names

/-- Follows some names of a path from where the path starts. -/
def locateAlong (tree : FileTree) (path : Path) (names : List String) : Except IoFault Place :=
  if path.text.toList.any (·.toNat == 0) then .error .invalidName
  else if path.text == "" then .error .notFound
  else if maxPathBytes ≤ path.text.utf8ByteSize then .error .nameTooLong
  else tree.follow (if path.isAbsolute then [] else tree.current) names

/-- The place that a path leads to. -/
def locate (tree : FileTree) (path : Path) : Except IoFault Place :=
  tree.locateAlong path path.segments

def find (tree : FileTree) (path : Path) : Except IoFault FileNode := do
  let place ← tree.locate path
  match tree.node? place with
  | some node => .ok node
  | none => .error .notFound

def holds (tree : FileTree) (path : Path) : Bool :=
  (tree.find path).isOk

def hasFile (tree : FileTree) (path : Path) : Bool :=
  match tree.find path with
  | .ok (.file _) => true
  | _ => false

def hasDirectory (tree : FileTree) (path : Path) : Bool :=
  match tree.find path with
  | .ok .directory => true
  | _ => false

def readText (tree : FileTree) (path : Path) : Except IoFault String := do
  match ← tree.find path with
  | .directory => .error .isDirectory
  | .file .bytes => .error .notText
  | .file (.text s) => .ok s

/-- The segments of a path without slashes at its end. -/
def namedSegments (path : Path) : List String :=
  (path.segments.reverse.dropWhile (· == "")).reverse

/-- Makes one directory. -/
def makeDir (path : Path) : DiskM Unit := do
  let tree ← get
  let place ← ExceptT.mk (pure (tree.locateAlong path (namedSegments path)))
  if (tree.node? place).isSome then throw .alreadyExists
  else set (tree.setNode place .directory)

/-- Makes a directory unless it is there. -/
def ensureDir (path : Path) : DiskM Unit :=
  tryCatch (makeDir path) fun fault => do
    if (← get).hasDirectory path then pure () else throw fault

/-- Makes a directory and those above it that are missing. -/
def makeDirsWithin : Nat → Path → DiskM Unit
  | 0, _ => pure ()
  | fuel + 1, path =>
    if path.text == "" then pure ()
    else
      tryCatch (ensureDir path) fun fault =>
        match fault, path.parent? with
        | .notFound, some parent => do
          makeDirsWithin fuel parent
          ensureDir path
        | fault, _ => throw fault

def makeDirs (path : Path) : DiskM Unit :=
  makeDirsWithin (path.segments.length + 1) path

/-- Whether the last segment of a path can only name a directory. -/
def endsInDirectory (path : Path) : Bool :=
  match path.segments.getLast? with
  | some last => Path.isNoise last || last == ".."
  | none => true

/-- Writes a file, new or in place of an old one. -/
def write (path : Path) (contents : FileContents) : DiskM Unit := do
  let tree ← get
  let place ← ExceptT.mk (pure (tree.locateAlong path (namedSegments path)))
  if endsInDirectory path || tree.node? place == some .directory then throw .isDirectory
  else set (tree.setNode place (.file contents))

/-- A file below `place` with the path to it from there. -/
def fileBelow? (place : Place) (entry : Place × FileNode) : Option (String × FileContents) :=
  match entry.2 with
  | .directory => none
  | .file contents =>
    if place.isPrefixOf entry.1 && place.length < entry.1.length then
      some ("/".intercalate (entry.1.drop place.length), contents)
    else none

/-- All files below a directory, sorted by the path to them; a missing directory has none. -/
def filesBelow (tree : FileTree) (path : Path) : List (String × FileContents) :=
  match tree.locate path with
  | .ok place =>
    (tree.nodes.entries.filterMap (fileBelow? place)).mergeSort fun a b => compare a.1 b.1 != .gt
  | .error _ => []

end FileTree

end RouteScaffold
