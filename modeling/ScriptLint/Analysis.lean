import ScriptLint.FileTree
import ScriptLint.Order
import ScriptLint.Rule

/-! # Analyzing scripts

A script is shown to every enabled rule in turn. A rule that fails is logged and contributes nothing;
the others still run. The findings are sorted by where they start, and those that start at one place
stay in the order of their rules.
-/

namespace ScriptLint

namespace Script

/-- The script that the bytes of a file hold. One leading byte order mark is not part of its text. -/
def ofBytes (path : Path) (bytes : List UInt8) : Except Failure Script :=
  match Text.Utf8.decode (Text.Utf8.withoutMark bytes) with
  | .ok text => .ok ⟨text, some path.toString⟩
  | .error fault => .error (.undecodable fault)

/-- The script that a path leads to. -/
def load (workspace : Workspace) (path : Path) : Except Failure Script :=
  match workspace.read path with
  | .ok bytes => ofBytes path bytes
  | .error fault => .error (.inaccessible fault)

end Script

namespace Rule

/-- The rules that are to be run. -/
def active (rules : List Rule) : List Rule := rules.filter isEnabled

/-- What a rule contributes to an analysis: nothing, apart from a log entry, if it fails. -/
def contribution (strings : Strings) (script : Script) (rule : Rule) : Traced (List Record) :=
  (rule.analyze strings (some script) script.file).recover fun cause => do
    let name ← rule.name strings
    Traced.note (.ruleFailed name script.file cause)
    return []

def contributions (strings : Strings) (script : Script) : List Rule → Traced (List Record)
  | [] => pure []
  | rule :: rest => do
    let found ← rule.contribution strings script
    let others ← contributions strings script rest
    return found ++ others

end Rule

/-- The findings of all enabled rules for a script. -/
def analyze (strings : Strings) (rules : List Rule) (script : Script) : Traced (List Record) := do
  let found ← Rule.contributions strings script (Rule.active rules)
  Traced.note (.analyzed found.length script.file)
  return sortStable Record.before found

def analyzeOptional (strings : Strings) (rules : List Rule) :
    Option Script → Traced (List Record)
  | none => Traced.fail .missingScript
  | some script => analyze strings rules script

def analyzePath (strings : Strings) (workspace : Workspace) (rules : List Rule) (path : Path) :
    Traced (List Record) := do
  let script ← Traced.ofResult (Script.load workspace path)
  analyze strings rules script

end ScriptLint
