import ScriptLint.Path
import ScriptLint.Text.Quoted

/-! # Files and directories

A `FileTree` lists what is found at which location below the root; a directory also exists if
something is found below it. A `Workspace` is a tree with a working directory, from which paths are
followed name by name: every name but the last must lead to a directory, also before `..`. Names and
paths have a greatest length in bytes. The location that a path names by its spelling alone is its
resolution.
-/

namespace ScriptLint

/-- The names that lead from the root to a file or directory. -/
abbrev Location : Type := List String

/-- What is found at a location. -/
inductive Content where
  | directory
  | file (bytes : List UInt8)
  deriving DecidableEq, Repr

/-- The files and directories below a root. -/
structure FileTree where
  /-- What is found where, in the order of enumeration. -/
  entries : List (Location × Content)

inductive AccessProblem where
  | missing
  | notDirectory
  | isDirectory
  /-- A name on the way or the whole path is too long. -/
  | tooLong
  /-- The path has a null character, which ends a path for the file system. -/
  | nullCharacter
  deriving DecidableEq, Repr

/-- A failed attempt to read a file. -/
structure AccessFault where
  problem : AccessProblem
  /-- The path as it was spelled. -/
  path : String
  deriving DecidableEq, Repr

def AccessFault.message (fault : AccessFault) : String :=
  let path := ": " ++ Text.quoted fault.path
  match fault.problem with
  | .missing => "[Errno 2] No such file or directory" ++ path
  | .notDirectory => "[Errno 20] Not a directory" ++ path
  | .isDirectory => "[Errno 21] Is a directory" ++ path
  | .tooLong => "[Errno 36] File name too long" ++ path
  | .nullCharacter => "embedded null byte"

/-- The greatest length of a name in bytes. -/
def maxNameBytes : Nat := 255

def maxPathBytes : Nat := 4095

/-- Whether a path is longer than the file system takes. -/
def Path.isTooLong (path : Path) : Bool := decide (maxPathBytes < path.toString.utf8ByteSize)

/-- The names that remain after a leading location. -/
def namesBelow? : Location → Location → Option (List String)
  | [], names => some names
  | _ :: _, [] => none
  | first :: location, name :: names => if first = name then namesBelow? location names else none

namespace FileTree

/-- The content that is listed for a location. -/
def listed? (location : Location) : List (Location × Content) → Option Content
  | [] => none
  | (other, content) :: rest => if other = location then some content else listed? location rest

def hasBelow (tree : FileTree) (location : Location) : Bool :=
  tree.entries.any fun entry => match namesBelow? location entry.1 with
    | some (_ :: _) => true
    | _ => false

/-- What is found at a location. -/
def content? (tree : FileTree) (location : Location) : Option Content :=
  match listed? location tree.entries with
  | some content => some content
  | none => if location = [] ∨ tree.hasBelow location then some .directory else none

/-- Put content at a location, in place of what is listed there. -/
def writeIn (location : Location) (content : Content) :
    List (Location × Content) → List (Location × Content)
  | [] => [(location, content)]
  | (other, old) :: rest =>
    if other = location then (location, content) :: rest
    else (other, old) :: writeIn location content rest

def write (tree : FileTree) (location : Location) (content : Content) : FileTree :=
  ⟨writeIn location content tree.entries⟩

/-- The names that lead from a directory to the files below it. -/
def filesBelow (tree : FileTree) (location : Location) : List (List String) :=
  tree.entries.filterMap fun entry => match entry.2 with
    | .file _ => namesBelow? location entry.1
    | .directory => none

/-- The names that lead from a directory to what is listed below it, with what is found there. The
directory itself may be among it. -/
def listedBelow (tree : FileTree) (location : Location) : List (List String × Content) :=
  tree.entries.filterMap fun entry => (namesBelow? location entry.1).map (·, entry.2)

/-- Follow names from a location on. -/
def walk (tree : FileTree) : Location → List String → Except AccessProblem Location
  | location, [] => .ok location
  | location, name :: rest =>
    match tree.content? location with
    | some .directory =>
      if maxNameBytes < name.utf8ByteSize then .error .tooLong
      else tree.walk (if name = parentName then location.dropLast else location ++ [name]) rest
    | some (.file _) => .error .notDirectory
    | none => .error .missing

end FileTree

/-- A file tree with a working directory. -/
structure Workspace where
  tree : FileTree
  /-- Where relative paths start. -/
  directory : Location

namespace Workspace

/-- Where the names of a path are followed from. -/
def start (workspace : Workspace) (path : Path) : Location :=
  if path.isAbsolute then [] else workspace.directory

/-- The location and the content that a path leads to. -/
def find (workspace : Workspace) (path : Path) : Except AccessProblem (Location × Content) :=
  if path.hasNull then .error .nullCharacter
  else if path.isTooLong then .error .tooLong
  else match workspace.tree.walk (workspace.start path) path.parts with
  | .error problem => .error problem
  | .ok location =>
    match workspace.tree.content? location with
    | some content => .ok (location, content)
    | none => .error .missing

/-- The location and the content that a path leads to, if it leads anywhere. Whether it does is
unknown if it is too long. -/
def probe (workspace : Workspace) (path : Path) : Except AccessFault (Option (Location × Content)) :=
  match workspace.find path with
  | .ok found => .ok (some found)
  | .error .tooLong => .error ⟨.tooLong, path.toString⟩
  | .error _ => .ok none

def isFile (workspace : Workspace) (path : Path) : Except AccessFault Bool :=
  (workspace.probe path).map fun
    | some (_, .file _) => true
    | _ => false

/-- The directory that a path leads to. -/
def directory? (workspace : Workspace) (path : Path) : Except AccessFault (Option Location) :=
  (workspace.probe path).map fun
    | some (location, .directory) => some location
    | _ => none

def read (workspace : Workspace) (path : Path) : Except AccessFault (List UInt8) :=
  match workspace.find path with
  | .ok (_, .file bytes) => .ok bytes
  | .ok (_, .directory) => .error ⟨.isDirectory, path.toString⟩
  | .error problem => .error ⟨problem, path.toString⟩

/-- The working directory as an absolute path. -/
def currentPath (workspace : Workspace) : Path := ⟨"/", workspace.directory⟩

/-- Follow names by their spelling alone. -/
def spelledFrom (location : Location) (names : List String) : Location :=
  names.foldl (fun location name =>
    if name = parentName then location.dropLast else location ++ [name]) location

/-- The location that a path names by its spelling. -/
def resolve (workspace : Workspace) (path : Path) : Location :=
  spelledFrom (workspace.start path) path.parts

def write (workspace : Workspace) (location : Location) (content : Content) : Workspace :=
  { workspace with tree := workspace.tree.write location content }

end Workspace

end ScriptLint
