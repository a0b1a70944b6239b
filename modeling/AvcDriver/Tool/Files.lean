import AvcDriver.Bytes
import AvcDriver.Memory.Error

/-!
# Files

The tool reads at most one file and makes at most one. What a file system answers to
that is a `Files`. A `FileTree` is a file system that is known in full, and
`FileTree.files` is what it answers. Making a file that is there already empties it.

A path is followed name by name, from the root if it starts with a slash and from the
working directory if not. A name can be looked up in a directory only, so the first
fault on the way decides: a directory that is missing hides a name behind it that is
too long.
-/

namespace AvcDriver.Tool

open Memory (SystemError)

/-- What a file system answers. -/
structure Files where
  /-- what reading a file yields -/
  read : String → Except SystemError Bytes
  /-- what can be read after a file was made, or emptied if it was there -/
  create : String → Except SystemError (String → Except SystemError Bytes) := fun path =>
    .ok fun other => if other = path then .ok [] else read other

/-- Where something is: the names that lead to it from the root. -/
abbrev Location := List String

/-- What can be at a location. -/
inductive Entry where
  /-- a directory, and what making a file in it fails with, if it always fails -/
  | directory (refusal : Option SystemError)
  | file (contents : Bytes)
  deriving DecidableEq, Repr

/-- A file system: what is at which location. -/
structure FileTree where
  entries : List (Location × Entry)
  workingDirectory : Location := []
  deriving DecidableEq, Repr

namespace FileTree

/-- The bytes that a path has less than. -/
def maxPath : Nat := 4096

/-- The most bytes that a name has. -/
def maxName : Nat := 255

/-- What is at a location. The root is always there. -/
def entry? (tree : FileTree) (location : Location) : Option Entry :=
  if location = [] then some (.directory none) else tree.entries.lookup location

/-- Follow a name. An empty name, as behind a slash at the end, stays where it is. What
the name leads to need not be there. -/
def follow (tree : FileTree) (here : Location) (name : String) :
    Except SystemError Location :=
  match tree.entry? here with
  | none => .error .noSuchFile
  | some (.file _) => .error .notDirectory
  | some (.directory _) =>
    if name = "" ∨ name = "." then .ok here
    else if name = ".." then .ok here.dropLast
    else if maxName < name.utf8ByteSize then .error .nameTooLong
    else .ok (here ++ [name])

/-- The names of a path, and where they start. -/
def start (tree : FileTree) (path : String) : Except SystemError (Location × List String) :=
  if path = "" then .error .noSuchFile
  else if maxPath ≤ path.utf8ByteSize then .error .nameTooLong
  else .ok (if path.startsWith "/" then [] else tree.workingDirectory, path.splitOn "/")

/-- What reading a path yields. -/
def read (tree : FileTree) (path : String) : Except SystemError Bytes := do
  let (here, names) ← tree.start path
  match tree.entry? (← names.foldlM tree.follow here) with
  | none => throw .noSuchFile
  | some (.directory _) => throw .isDirectory
  | some (.file contents) => pure contents

/-- The names in front of the last one that is not empty. -/
def parentNames (names : List String) : List String :=
  (names.reverse.dropWhile (· = "")).tail.reverse

/-- The tree with an empty file at a location, where there may be a file or nothing. -/
def createAt (tree : FileTree) (location : Location) : Except SystemError FileTree :=
  match tree.entry? location, tree.entry? location.dropLast with
  | some (.directory _), _ => .error .isDirectory
  | none, some (.directory (some refusal)) => .error refusal
  | _, _ => .ok { tree with entries := (location, .file []) :: tree.entries }

/-- The tree with an empty file at a path. A path with a slash at the end is one of a
directory, also if there is none. -/
def create (tree : FileTree) (path : String) : Except SystemError FileTree := do
  let (here, names) ← tree.start path
  if path.endsWith "/" then
    -- the directory it would be in comes first
    let parent ← (parentNames names).foldlM tree.follow here
    let _ ← tree.follow parent "."
    throw .isDirectory
  tree.createAt (← names.foldlM tree.follow here)

/-- What a tree answers. -/
def files (tree : FileTree) : Files where
  read := tree.read
  create path := (tree.create path).map read

/-- A tree with nothing in it but the usual directories and devices. Work starts in the
directory for temporary files. Nothing can be made in the directories that show the
state of the system, and devices have nothing to read. -/
def bare : FileTree where
  entries :=
    ["bin", "boot", "dev", "etc", "home", "lib", "lib64", "media", "mnt", "opt", "root", "run",
      "sbin", "srv", "tmp", "usr", "var"].map (fun name => ([name], .directory none)) ++
    [(["proc"], .directory (some .noSuchFile)), (["sys"], .directory (some .permissionDenied))] ++
    ["full", "null", "stderr", "stdin", "stdout", "zero"].map fun name => (["dev", name], .file [])
  workingDirectory := ["tmp"]

end FileTree

end AvcDriver.Tool
