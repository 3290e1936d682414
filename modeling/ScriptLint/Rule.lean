import ScriptLint.LongLines

/-! # Rules

A rule is the built-in rule against long lines or one that a host supplies. A supplied rule may do
whatever it likes when it is asked for its name or for findings, failing included; if it has options,
they follow the same laws as those of the built-in rule.
-/

namespace ScriptLint

/-- A rule that a host supplies. -/
structure SuppliedRule where
  /-- Its name in findings and configurations. -/
  name : Traced String
  /-- Its name for people. -/
  commonName : Traced String
  description : Traced String
  severity : Severity
  /-- The label of the module it ships in. -/
  sourceName : Traced String
  sourceType : SourceType := .builtin
  settings : Option Settings := none
  /-- Its findings for a script, given also the file name that the host knows. -/
  analyze : Option Settings → Option Script → Option String → Traced (List Record)

inductive Rule where
  | longLines (rule : LongLines)
  | supplied (rule : SuppliedRule)

namespace Rule

def builtin : List Rule := [.longLines {}]

def name (strings : Strings) : Rule → Traced String
  | .longLines _ => LongLines.name strings
  | .supplied rule => rule.name

def commonName (strings : Strings) : Rule → Traced String
  | .longLines _ => LongLines.commonName strings
  | .supplied rule => rule.commonName

def description (strings : Strings) : Rule → Traced String
  | .longLines _ => LongLines.description strings
  | .supplied rule => rule.description

def severity : Rule → Severity
  | .longLines _ => .warning
  | .supplied rule => rule.severity

def sourceName (strings : Strings) : Rule → Traced String
  | .longLines _ => LongLines.sourceName strings
  | .supplied rule => rule.sourceName

def sourceType : Rule → SourceType
  | .longLines _ => .builtin
  | .supplied rule => rule.sourceType

/-- The option values of a rule that has options. -/
def settings? : Rule → Option Settings
  | .longLines rule => some rule.settings
  | .supplied rule => rule.settings

/-- Whether a rule is to be run. A rule without options always is. -/
def isEnabled (rule : Rule) : Bool :=
  match rule.settings? with
  | some settings => settings.enable.isTrue
  | none => true

/-- The rule after the values that entries set; nothing if it stays as it is. -/
def configure (entries : List (String × Offer)) : Rule → Option Rule
  | .longLines rule => (rule.configure entries).map .longLines
  | .supplied rule =>
    match rule.settings with
    | none => none
    | some settings =>
      (settings.configure entries).map fun settings =>
        .supplied { rule with settings := some settings }

/-- The findings of a rule, given also the file name that the host knows. -/
def analyze (strings : Strings) (script : Option Script) (fileName : Option String) :
    Rule → Traced (List Record)
  | .longLines rule =>
    match script with
    | none => Traced.fail .missingScript
    | some script => rule.analyze strings script
  | .supplied rule => rule.analyze rule.settings script fileName

end Rule

end ScriptLint
