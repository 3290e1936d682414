import ScriptLint.Failure

/-! # Log entries

What the program reports while it works. An entry is a fact about the work; its level, the part of
the program that reports it and its wording are derived from the fact.
-/

namespace ScriptLint

inductive LogLevel where
  /-- Of interest when something is investigated. -/
  | debug
  /-- Something was passed over. -/
  | warning
  /-- Something failed. -/
  | error
  deriving DecidableEq, Repr

/-- The part of the program that writes a log entry. -/
inductive LogChannel where
  | strings
  | config
  | analyzer
  | server
  deriving DecidableEq, Repr

inductive LogEntry where
  | cultureUnknown (culture : String)
  | configLoaded (path : Path)
  | configIgnored (path : Path)
  | ruleFailed (rule : String) (file : Option String) (cause : Failure)
  | analyzed (count : Nat) (file : Option String)
  | publishing (count : Nat) (uri : String)
  deriving DecidableEq, Repr

/-- The culture whose table is used in the end. -/
def defaultCulture : String := "en-US"

/-- The name of a file in messages. -/
def fileText : Option String → String
  | some file => file
  | none => "None"

def LogLevel.name : LogLevel → String
  | .debug => "DEBUG"
  | .warning => "WARNING"
  | .error => "ERROR"

def LogChannel.name : LogChannel → String
  | .strings => "pslint.strings"
  | .config => "pslint.config"
  | .analyzer => "pslint.analyzer"
  | .server => "pslint.server"

namespace LogEntry

def level : LogEntry → LogLevel
  | .cultureUnknown _ => .debug
  | .configLoaded _ => .debug
  | .configIgnored _ => .warning
  | .ruleFailed .. => .error
  | .analyzed .. => .debug
  | .publishing .. => .debug

def channel : LogEntry → LogChannel
  | .cultureUnknown _ => .strings
  | .configLoaded _ => .config
  | .configIgnored _ => .config
  | .ruleFailed .. => .analyzer
  | .analyzed .. => .analyzer
  | .publishing .. => .server

def message : LogEntry → String
  | .cultureUnknown culture =>
    "No strings for culture " ++ Text.quoted culture ++ "; using " ++ defaultCulture
  | .configLoaded path => "Loaded configuration from " ++ path.toString
  | .configIgnored path => "Ignoring unreadable " ++ path.toString ++ ":"
  | .ruleFailed rule file _ => "Rule " ++ rule ++ " failed on " ++ fileText file
  | .analyzed count file => toString count ++ " record(s) for " ++ fileText file
  | .publishing count uri => "Publishing " ++ toString count ++ " diagnostic(s) for " ++ uri

/-- The failure that an entry reports. -/
def cause? : LogEntry → Option Failure
  | .ruleFailed _ _ cause => some cause
  | _ => none

end LogEntry

end ScriptLint
