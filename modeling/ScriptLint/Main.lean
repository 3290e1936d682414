import ScriptLint.CommandLine

/-! # The program

Reads the arguments, the environment and the files that they lead to, carries out the invocation on
that snapshot, and writes what it printed, terminal sequences included.
-/

namespace ScriptLint.Main

def textOf (location : Location) : String :=
  (Path.mk "/" location).toString

/-- What is found at a location of this machine, with everything below it if `deep` is set. -/
partial def snapshotAt (deep : Bool) (location : Location) : IO (List (Location × Content)) := do
  let place := (← IO.currentDir) / textOf location
  if ← place.isDir then
    if !deep then return [(location, .directory)]
    let mut found := [(location, Content.directory)]
    for entry in ← place.readDir do
      found := found ++ (← snapshotAt true (location ++ [entry.fileName]))
    return found
  else if ← place.pathExists then
    try
      let bytes ← IO.FS.readBinFile place
      return [(location, .file bytes.toList)]
    catch _ => return []
  else return []

/-- The locations that a path passes through by its spelling, itself included. -/
def passed (workspace : Workspace) (path : Path) : List Location :=
  (List.range (path.parts.length + 1)).map fun count =>
    workspace.resolve { path with parts := path.parts.take count }

/-- The part of this machine that an invocation can see. -/
def snapshot (invocation : Invocation) : IO Workspace := do
  let directory := (Path.ofString (← IO.currentDir).toString).parts
  let empty : Workspace := ⟨⟨[]⟩, directory⟩
  let paths := match invocation.command with
    | .check _ paths => paths.map Path.ofString
    | .rules => []
  let mut workspace := empty
  for candidate in Config.candidates empty.currentPath do
    for (location, content) in ← snapshotAt false (empty.resolve candidate) do
      workspace := workspace.write location content
  for path in paths do
    for location in passed empty path do
      for (location, content) in ← snapshotAt false location do
        workspace := workspace.write location content
    for (location, content) in ← snapshotAt true (empty.resolve path) do
      workspace := workspace.write location content
  return workspace.write directory .directory

end ScriptLint.Main

open ScriptLint in
def main (arguments : List String) : IO UInt32 := do
  match CommandLine.parse arguments with
  | none =>
    (← IO.getStderr).putStrLn "usage: [-v] check [--line-length N] PATH... | [-v] rules"
    return usageExitCode.toUInt32
  | some invocation =>
    let strings := { Strings.shipped with preferred := ← IO.getEnv "PSLINT_CULTURE" }
    let transcript := invocation.run strings (← Main.snapshot invocation)
    (← IO.getStdout).putStr (transcript.output id)
    (← IO.getStderr).putStr (transcript.errorOutput id invocation.verbose)
    match transcript.crash with
    | none => pure ()
    | some cause => (← IO.getStderr).putStrLn cause.message
    return transcript.exitCode.toUInt32
