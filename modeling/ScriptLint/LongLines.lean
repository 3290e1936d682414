import ScriptLint.Script
import ScriptLint.Settings
import ScriptLint.Strings
import ScriptLint.Text.Line

/-! # The rule against long lines

Every line of a script with more characters than the configured maximum is reported, from its first
character to its last. The maximum may be any integer: under a negative one empty lines are reported
too, and their end column is zero.
-/

namespace ScriptLint

/-- The rule against long lines in one configuration. -/
structure LongLines where
  enable : Bool := false
  /-- The greatest number of characters that a line may have. -/
  lineLength : Int := 120
  deriving DecidableEq, Repr

namespace LongLines

def lineLengthOption : RuleOption where
  name := "LineLength"
  type := .int
  default := .int 120
  slot := "line_length"

def settings (rule : LongLines) : Settings where
  options := [lineLengthOption]
  values := [(RuleOption.enable.slot, .bool rule.enable),
    (lineLengthOption.slot, .int rule.lineLength)]

def ofSettings (settings : Settings) : LongLines where
  enable := match settings.values.find? RuleOption.enable.slot with
    | some (.bool value) => value
    | _ => false
  lineLength := match settings.values.find? lineLengthOption.slot with
    | some (.int value) => value
    | _ => 120

/-- The rule after the values that entries set; nothing if no entry sets one. -/
def configure (rule : LongLines) (entries : List (String × Offer)) : Option LongLines :=
  (rule.settings.configure entries).map ofSettings

/-- The label of the module the rule ships in. -/
def sourceName (strings : Strings) : Traced String :=
  strings.text .sourceName []

def name (strings : Strings) : Traced String := do
  let source ← sourceName strings
  let rule ← strings.text .longLinesName []
  strings.text .nameSpaceFormat [.text source, .text rule]

def commonName (strings : Strings) : Traced String :=
  strings.text .longLinesCommonName []

def description (strings : Strings) : Traced String :=
  strings.text .longLinesDescription []

def lineExtent (file : Option String) (number : Nat) (line : String) : Extent where
  start := ⟨file, number, 1, line⟩
  stop := ⟨file, number, line.length, line⟩

/-- The finding for a line that is too long. -/
def record (strings : Strings) (rule : LongLines) (file : Option String) (number : Nat)
    (line : String) : Traced Record := do
  let message ← strings.text .longLinesError [.int rule.lineLength]
  let ruleName ← name strings
  return {
    message, ruleName
    extent := lineExtent file number line
    severity := .warning
    scriptPath := file }

def exceeds (rule : LongLines) (line : String) : Bool :=
  decide (rule.lineLength < line.length)

/-- The findings for lines that are numbered from the given number on. -/
def recordsFrom (strings : Strings) (rule : LongLines) (file : Option String) :
    Nat → List String → Traced (List Record)
  | _, [] => pure []
  | number, line :: rest =>
    if rule.exceeds line then do
      let found ← record strings rule file number line
      let others ← recordsFrom strings rule file (number + 1) rest
      return found :: others
    else recordsFrom strings rule file (number + 1) rest

def analyze (strings : Strings) (rule : LongLines) (script : Script) : Traced (List Record) :=
  recordsFrom strings rule script.file 1 (Text.lines script.text)

end LongLines

end ScriptLint
