import ScriptLint.Check.Targets
import ScriptLint.Check.Transcript
import ScriptLint.Config.Load

/-! # Checking files

The command `check` loads the configuration of the working directory, applies it to the built-in
rules and reports the findings in every file that its arguments stand for. A file that cannot be read
is complained about and passed over. A line length given with the command enables the rule against
long lines and goes in front of the configuration. A path with a null character is refused before
anything else is done. The command `rules` lists what can be found.
-/

namespace ScriptLint

namespace Check

/-- The option values for a rule with a line length from the command: they take the place of entries
of exactly the same names and come after all others. -/
def overridden (lineLength : Int) (values : OptionValues) : OptionValues :=
  (values.insert RuleOption.enable.name (.bool true)).insert LongLines.lineLengthOption.name
    (.int lineLength)

/-- A configuration with the line length from the command. -/
def withLineLength (strings : Strings) (lineLength : Option Int) (config : Config) :
    Traced Config :=
  match lineLength with
  | none => pure config
  | some length => do
    let key ← Rule.key strings (.longLines {})
    let values := overridden length ((config.options.find? key).getD [])
    return { config with options := config.options.insert key values }

def rules (strings : Strings) (workspace : Workspace) (lineLength : Option Int) :
    Traced (List Rule) := do
  let config ← Config.load workspace none
  let config ← withLineLength strings lineLength config
  config.apply strings Rule.builtin

def files (strings : Strings) (workspace : Workspace) (rules : List Rule) :
    List Path → Transcript
  | [] => ⟨[], none⟩
  | path :: rest =>
    let analysis := analyzePath strings workspace rules path
    let logged := analysis.log.map Event.logged
    match analysis.result with
    | .ok records =>
      (files strings workspace rules rest).after (logged ++ records.map (.reported path))
    | .error cause =>
      if cause.isUnreadable then
        (files strings workspace rules rest).after (logged ++ [.unreadable cause])
      else ⟨logged, some cause⟩

/-- Check the files that path arguments stand for. -/
def run (strings : Strings) (workspace : Workspace) (lineLength : Option Int)
    (arguments : List Path) : Transcript :=
  match arguments.find? Path.hasNull with
  | some path => ⟨[], some (.inaccessible ⟨.nullCharacter, path.toString⟩)⟩
  | none => Transcript.follow (rules strings workspace lineLength) fun rules =>
    match targets workspace arguments with
    | .error fault => ⟨[], some (.inaccessible fault)⟩
    | .ok paths => files strings workspace rules paths

end Check

namespace Listing

def line (strings : Strings) (rule : Rule) : Traced String := do
  let name ← rule.name strings
  let description ← rule.description strings
  return name ++ "\t" ++ rule.severity.title ++ "\t" ++ rule.sourceType.title ++ "\t" ++ description

def runOn (strings : Strings) : List Rule → Transcript
  | [] => ⟨[], none⟩
  | rule :: rest => Transcript.follow (line strings rule) fun line =>
    (runOn strings rest).after [.printed line]

def run (strings : Strings) : Transcript := runOn strings Rule.builtin

end Listing

end ScriptLint
