import ScriptLint.Check

/-! # The command line

The arguments are global options, the name of a command, and the options and arguments of that
command. Options of `check` may stand anywhere among its paths, up to a double hyphen, after which
everything is a path. What does not fit this form is a usage error.
-/

namespace ScriptLint

/-- What the command line asks for. -/
inductive Command where
  | check (lineLength : Option Int) (paths : List String)
  | rules
  deriving DecidableEq, Repr

structure Invocation where
  verbose : Bool
  command : Command
  deriving DecidableEq, Repr

namespace CommandLine

/-- The natural number that digits denote. Zeros in front of it do not count as digits. -/
def natural? (digits : List Char) : Option Nat :=
  let significant := digits.dropWhile (· = '0')
  if digits = [] || !digits.all Char.isDigit || Text.maxDecimalDigits < significant.length then none
  else some (Text.digitsValue 10 significant)

/-- The integer that an option value denotes. -/
def integer? (text : String) : Option Int :=
  match text.toList with
  | '-' :: digits => (natural? digits).map fun (value : Nat) => -(value : Int)
  | digits => (natural? digits).map fun (value : Nat) => (value : Int)

/-- What an argument of a command is by its spelling. -/
inductive Token where
  | terminator
  /-- An option, with the value that is attached to it. -/
  | option (name : String) (value : Option String)
  | plain (text : String)
  deriving DecidableEq, Repr

/-- Classify an argument. A single hyphen is no option. -/
def Token.ofArgument (argument : String) : Token :=
  match argument.toList with
  | ['-', '-'] => .terminator
  | '-' :: c :: rest =>
    let text := '-' :: c :: rest
    match text.dropWhile (· ≠ '=') with
    | '=' :: value =>
      .option (String.ofList (text.takeWhile (· ≠ '='))) (some (String.ofList value))
    | _ => .option argument none
  | _ => .plain argument

/-- Arguments of `check` as they are collected: the last line length as written, and the paths. -/
structure CheckArguments where
  lineLength : Option String := none
  /-- The paths, last one first. -/
  paths : List String := []

/-- Collect the arguments of `check`; nothing if an option is unknown or lacks its value. -/
def checkArguments? (collected : CheckArguments) : List String → Option CheckArguments
  | [] => some collected
  | argument :: rest =>
    match Token.ofArgument argument with
    | .terminator => some { collected with paths := rest.reverse ++ collected.paths }
    | .plain text => checkArguments? { collected with paths := text :: collected.paths } rest
    | .option name value =>
      if name = "--line-length" then
        match value, rest with
        | some value, rest => checkArguments? { collected with lineLength := some value } rest
        | none, value :: rest => checkArguments? { collected with lineLength := some value } rest
        | none, [] => none
      else none

def check? (arguments : List String) : Option Command := do
  let collected ← checkArguments? {} arguments
  if collected.paths.isEmpty then none
  else match collected.lineLength with
    | none => some (.check none collected.paths.reverse)
    | some text => (integer? text).map fun length => .check (some length) collected.paths.reverse

/-- The command `rules`, which takes no arguments: only the end of options may follow it. -/
def rules? : List String → Option Command
  | [] => some .rules
  | [argument] => if argument = "--" then some .rules else none
  | _ => none

def command? : List String → Option Command
  | [] => none
  | name :: arguments =>
    if name = "check" then check? arguments
    else if name = "rules" then rules? arguments
    else none

/-- Whether an argument is one or more requests to show all log entries. -/
def isVerbose (argument : String) : Bool :=
  argument = "--verbose" ||
    match argument.toList with
    | '-' :: letters => !letters.isEmpty && letters.all (· = 'v')
    | _ => false

/-- The invocation that arguments spell, where `verbose` says what the options so far ask for. -/
def parseFrom (verbose : Bool) : List String → Option Invocation
  | [] => none
  | argument :: rest =>
    match Token.ofArgument argument with
    | .terminator => (command? rest).map (⟨verbose, ·⟩)
    | .plain _ => (command? (argument :: rest)).map (⟨verbose, ·⟩)
    | .option .. => if isVerbose argument then parseFrom true rest else none

def parse (arguments : List String) : Option Invocation :=
  parseFrom false arguments

end CommandLine

namespace Invocation

def run (strings : Strings) (workspace : Workspace) (invocation : Invocation) : Transcript :=
  match invocation.command with
  | .check lineLength paths => Check.run strings workspace lineLength (paths.map Path.ofString)
  | .rules => Listing.run strings

end Invocation

def usageExitCode : Nat := 2

end ScriptLint
