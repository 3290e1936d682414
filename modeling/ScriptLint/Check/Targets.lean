import ScriptLint.FileTree
import ScriptLint.Order

/-! # The files to check

A path argument that leads to a directory stands for the scripts below it, in the order of their
paths; any other argument stands for itself, whatever its suffix. Of several spellings of one file the
first is kept. An argument that is too long to tell whether it leads to a directory is a failure, and so
is a path below a directory that is too long to be looked at.
-/

namespace ScriptLint.Check

/-- The suffixes of scripts, in lower case. -/
def scriptSuffixes : List String := [".ps1", ".psm1", ".psd1"]

/-- Names of directories that hold nothing to check. -/
def skippedNames : List String :=
  [".venv", "venv", "__pycache__", ".git", "node_modules", "build", "dist", ".tox"]

/-- Whether a path has the suffix of a script. -/
def isScript (path : Path) : Bool := scriptSuffixes.contains (Text.lower path.suffix)

/-- Whether a path below a directory argument is a script to check: by its suffix, and by all names in
its spelling. -/
def isCollected (path : Path) : Bool :=
  isScript path && !path.parts.any fun name => skippedNames.contains name

/-- The names that lead to the directories on the way to something listed, and to itself if it is a
directory. -/
def directoriesTo (names : List String) : Content → List (List String)
  | .directory => (List.range (names.length + 1)).map names.take
  | .file _ => (List.range names.length).map names.take

/-- The paths that are looked at below a directory argument, outermost first: whatever has the suffix
of a script, to see whether it is a file, and all directories, for what is in them. -/
def inspected (workspace : Workspace) (argument : Path) (directory : Location) : List Path :=
  let listed := workspace.tree.listedBelow directory
  let scripts := (listed.map fun entry => argument.below entry.1).filter isScript
  let directories := (listed.flatMap fun entry => directoriesTo entry.1 entry.2).map argument.below
  sortStable (fun path other => decide (path.parts.length ≤ other.parts.length)) (scripts ++ directories)

def scriptsBelow (workspace : Workspace) (argument : Path) (directory : Location) : List Path :=
  sortStable Path.before
    (((workspace.tree.filesBelow directory).map argument.below).filter isCollected)

/-- The scripts below a directory. A path below it that is too long to be looked at is a failure. -/
def collect (workspace : Workspace) (argument : Path) (directory : Location) :
    Except AccessFault (List Path) :=
  match (inspected workspace argument directory).find? Path.isTooLong with
  | some path => .error ⟨.tooLong, path.toString⟩
  | none => .ok (scriptsBelow workspace argument directory)

/-- The paths that an argument stands for. -/
def expand (workspace : Workspace) (argument : Path) : Except AccessFault (List Path) :=
  match workspace.directory? argument with
  | .error fault => .error fault
  | .ok none => .ok [argument]
  | .ok (some directory) => collect workspace argument directory

def expandAll (workspace : Workspace) : List Path → Except AccessFault (List Path)
  | [] => .ok []
  | argument :: rest =>
    match expand workspace argument with
    | .error fault => .error fault
    | .ok paths => (expandAll workspace rest).map (paths ++ ·)

/-- The paths whose resolution is not among those seen and differs from those of all paths before. -/
def distinctFrom (workspace : Workspace) : List Location → List Path → List Path
  | _, [] => []
  | seen, path :: rest =>
    if workspace.resolve path ∈ seen then distinctFrom workspace seen rest
    else path :: distinctFrom workspace (workspace.resolve path :: seen) rest

/-- The paths to check for path arguments, each file once under its first spelling. -/
def targets (workspace : Workspace) (arguments : List Path) : Except AccessFault (List Path) :=
  (expandAll workspace arguments).map (distinctFrom workspace [])

end ScriptLint.Check
