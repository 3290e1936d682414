import ScriptLint.Config.Section
import ScriptLint.Toml.Parser

/-! # Loading a configuration

The closest file `pyproject.toml` at or above a starting point holds the configuration; further files
never count. A file that is not TOML is passed over with a warning, as if it were empty, while a file
that is not UTF-8 or whose section has the wrong shape is a failure. So is a place to look at that is
too long to tell what is there.
-/

namespace ScriptLint.Config

def fileName : String := "pyproject.toml"

/-- The places where a configuration file is looked for, closest first. -/
def candidates (start : Path) : List Path :=
  (start :: start.parents).map fun directory => directory.child fileName

def firstFile? (workspace : Workspace) : List Path → Except AccessFault (Option Path)
  | [] => .ok none
  | path :: rest =>
    match workspace.isFile path with
    | .error fault => .error fault
    | .ok true => .ok (some path)
    | .ok false => firstFile? workspace rest

/-- The closest configuration file. -/
def closest? (workspace : Workspace) (start : Path) : Except AccessFault (Option Path) :=
  firstFile? workspace (candidates start)

/-- The root table of a document, nothing if the document is to be passed over. -/
def document (bytes : List UInt8) : Except Failure (Option Toml.Table) :=
  match Text.Utf8.decode bytes with
  | .error fault => .error (.undecodable fault)
  | .ok text =>
    match Toml.parse text with
    | .ok table => .ok (some table)
    | .error .malformed => .ok none
    | .error (.integerTooLong digits) => .error (.integerTooLong digits)
    | .error .nestedTooDeep => .error .nestedTooDeep

def ofBytes (path : Path) (bytes : List UInt8) : Traced Config := do
  match ← Traced.ofResult (document bytes) with
  | none => do
    Traced.note (.configIgnored path)
    return {}
  | some table => do
    Traced.note (.configLoaded path)
    match ofDocument table with
    | .ok config => return config
    | .error fault => Traced.fail (.shape fault)

/-- The configuration that holds at a starting point, by default the working directory. -/
def load (workspace : Workspace) (start : Option Path) : Traced Config :=
  match closest? workspace (start.getD workspace.currentPath) with
  | .error fault => Traced.fail (.inaccessible fault)
  | .ok none => pure {}
  | .ok (some path) =>
    match workspace.read path with
    | .error _ => do
      Traced.note (.configIgnored path)
      return {}
    | .ok bytes => ofBytes path bytes

end ScriptLint.Config
