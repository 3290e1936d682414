import ScriptLint.Analysis

/-! # Transcripts

What a command does in the order in which it does it, and the failure that breaks it off if there is
one. The two output streams and the exit code are read off the transcript. How lines are printed depends
on where they go: a terminal may be shown sequences that others are spared. Log entries are written as
they are.
-/

namespace ScriptLint

/-- Something that a command does. -/
inductive Event where
  | logged (entry : LogEntry)
  | printed (line : String)
  | reported (path : Path) (record : Record)
  | unreadable (cause : Failure)
  deriving DecidableEq, Repr

/-- The course of a command. -/
structure Transcript where
  events : List Event
  crash : Option Failure := none
  deriving DecidableEq, Repr

/-- The line for a finding in the file at a path. -/
def Record.lineIn (record : Record) (path : Path) : String :=
  path.toString ++ ":" ++ toString record.line ++ ":" ++ toString record.column ++ ": " ++
    record.ruleName ++ " " ++ record.message

def LogEntry.line (entry : LogEntry) : String :=
  entry.level.name ++ " [" ++ entry.channel.name ++ "] " ++ entry.message

/-- Whether an entry is shown: warnings and errors always, all others on request. -/
def LogEntry.isShown (verbose : Bool) (entry : LogEntry) : Bool :=
  verbose || entry.level != .debug

namespace Event

/-- The line that an event adds to the standard output, where `print` is how lines are printed. -/
def outputLine? (print : String → String) : Event → Option String
  | .printed line => some (print line)
  | .reported path record => some (print (record.lineIn path))
  | _ => none

def errorLine? (print : String → String) (verbose : Bool) : Event → Option String
  | .logged entry => if entry.isShown verbose then some entry.line else none
  | .unreadable cause => some (print ("error: " ++ cause.message))
  | _ => none

def isFinding : Event → Bool
  | .reported .. => true
  | _ => false

end Event

/-- Lines as a text, each with a line end. -/
def textOfLines (lines : List String) : String :=
  String.join (lines.map (· ++ "\n"))

namespace Transcript

def output (print : String → String) (transcript : Transcript) : String :=
  textOfLines (transcript.events.filterMap (Event.outputLine? print))

def errorOutput (print : String → String) (verbose : Bool) (transcript : Transcript) : String :=
  textOfLines (transcript.events.filterMap (Event.errorLine? print verbose))

/-- The exit code: one if the command broke off or found something. -/
def exitCode (transcript : Transcript) : Nat :=
  if transcript.crash.isSome || transcript.events.any Event.isFinding then 1 else 0

def after (events : List Event) (transcript : Transcript) : Transcript :=
  { transcript with events := events ++ transcript.events }

/-- A traced operation, and what follows its answer. -/
def follow {α : Type} (operation : Traced α) (next : α → Transcript) : Transcript :=
  match operation.result with
  | .error cause => ⟨operation.log.map .logged, some cause⟩
  | .ok value => after (operation.log.map .logged) (next value)

end Transcript

end ScriptLint
