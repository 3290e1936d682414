/-! # Scripts and findings

A script is a text with the name of the file it came from. A finding of a rule is a `Record` that
points at a stretch of the script; lines and columns count from one, columns in characters, and the
end column belongs to the stretch.
-/

namespace ScriptLint

inductive Severity where
  | information
  | warning
  | error
  | parseError
  deriving DecidableEq, Repr

inductive SourceType where
  | builtin
  | managed
  | module
  deriving DecidableEq, Repr

def Severity.name : Severity → String
  | .information => "INFORMATION"
  | .warning => "WARNING"
  | .error => "ERROR"
  | .parseError => "PARSE_ERROR"

def Severity.title : Severity → String
  | .information => "Information"
  | .warning => "Warning"
  | .error => "Error"
  | .parseError => "Parse_Error"

def Severity.rank : Severity → Nat
  | .information => 0
  | .warning => 1
  | .error => 2
  | .parseError => 3

def SourceType.name : SourceType → String
  | .builtin => "BUILTIN"
  | .managed => "MANAGED"
  | .module => "MODULE"

def SourceType.title : SourceType → String
  | .builtin => "Builtin"
  | .managed => "Managed"
  | .module => "Module"

def SourceType.rank : SourceType → Nat
  | .builtin => 0
  | .managed => 1
  | .module => 2

structure Script where
  /-- Its text, line ends as they are. -/
  text : String
  file : Option String
  deriving DecidableEq, Repr

/-- A point in a script. -/
structure Position where
  file : Option String
  /-- The line, from one. -/
  line : Int
  /-- The column, from one. -/
  column : Int
  lineText : String := ""
  deriving DecidableEq, Repr

/-- A stretch of a script. -/
structure Extent where
  start : Position
  stop : Position
  deriving DecidableEq, Repr

/-- A finding. -/
structure Record where
  message : String
  extent : Extent
  ruleName : String
  severity : Severity
  scriptPath : Option String
  /-- The mark by which it can be suppressed. -/
  suppressionId : Option String := none
  deriving DecidableEq, Repr

namespace Record

def line (record : Record) : Int := record.extent.start.line

def column (record : Record) : Int := record.extent.start.column

/-- The order of findings by where they start. -/
def before (record other : Record) : Bool :=
  decide (record.line < other.line) ||
    (record.line == other.line && decide (record.column ≤ other.column))

end Record

end ScriptLint
