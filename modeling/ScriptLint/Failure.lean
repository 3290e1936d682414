import ScriptLint.FileTree
import ScriptLint.Text.Template
import ScriptLint.Text.Utf8
import ScriptLint.Toml.Value

/-! # Failures

Everything that can end an operation before it has an answer, as causes. The class that callers tell
failures apart by and the wording are derived from the cause in one place each, `Failure.className`
and `Failure.message`.
-/

namespace ScriptLint

/-- How a configuration section departs from its expected shape. -/
inductive ShapeFault where
  | sectionNotTable (kind : Toml.Kind)
  | namesNotIterable (kind : Toml.Kind)
  | nameNotText (kind : Toml.Kind)
  | rulesNotTable (kind : Toml.Kind)
  deriving DecidableEq, Repr

/-- The wording of a missing member of a value. -/
def missingMember (kind : Toml.Kind) (member : String) : String :=
  "'" ++ kind.name ++ "' object has no attribute '" ++ member ++ "'"

def ShapeFault.message : ShapeFault → String
  | .sectionNotTable kind => missingMember kind "get"
  | .namesNotIterable kind => "'" ++ kind.name ++ "' object is not iterable"
  | .nameNotText kind => missingMember kind "upper"
  | .rulesNotTable kind => missingMember kind "items"

/-- Why an operation has no answer. -/
inductive Failure where
  | unknownText (key : String)
  | template (fault : Text.Template.Fault)
  | missingScript
  /-- A rule gave up, in its own words. -/
  | ruleBroken (reason : String)
  | undecodable (fault : Text.Utf8.Fault)
  | inaccessible (fault : AccessFault)
  | shape (fault : ShapeFault)
  /-- What a server is built on gave up, with its own class and in its own words. -/
  | framework (className message : String)
  | integerTooLong (digits : Nat)
  | nestedTooDeep
  deriving DecidableEq, Repr

def Text.Template.Fault.className : Text.Template.Fault → String
  | .unknownName _ => "KeyError"
  | .missing _ => "IndexError"
  | _ => "ValueError"

def AccessProblem.className : AccessProblem → String
  | .missing => "FileNotFoundError"
  | .notDirectory => "NotADirectoryError"
  | .isDirectory => "IsADirectoryError"
  | .tooLong => "OSError"
  | .nullCharacter => "ValueError"

def ShapeFault.className : ShapeFault → String
  | .namesNotIterable _ => "TypeError"
  | _ => "AttributeError"

namespace Failure

/-- The class by which a failure is reported. -/
def className : Failure → String
  | .unknownText _ => "KeyError"
  | .template fault => fault.className
  | .missingScript => "ValueError"
  | .ruleBroken _ => "RuntimeError"
  | .undecodable _ => "UnicodeDecodeError"
  | .inaccessible fault => fault.problem.className
  | .shape fault => fault.className
  | .framework className _ => className
  | .integerTooLong _ => "ValueError"
  | .nestedTooDeep => "RecursionError"

def message : Failure → String
  | .unknownText key => Text.quoted key
  | .template fault => fault.message
  | .missingScript => "unit must not be None"
  | .ruleBroken reason => reason
  | .undecodable fault => fault.message
  | .inaccessible fault => fault.message
  | .shape fault => fault.message
  | .framework _ message => message
  | .nestedTooDeep => "maximum recursion depth exceeded"
  | .integerTooLong digits =>
    "Exceeds the limit (" ++ toString Text.maxDecimalDigits ++
      " digits) for integer string conversion: value has " ++ toString digits ++
      " digits; use sys.set_int_max_str_digits() to increase the limit"

/-- Whether a failure says that a file has no text. -/
def isUnreadable : Failure → Bool
  | .undecodable _ => true
  | .inaccessible fault => fault.problem ≠ .nullCharacter
  | _ => false

end Failure

end ScriptLint
