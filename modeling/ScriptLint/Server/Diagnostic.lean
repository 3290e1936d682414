import ScriptLint.Script
import ScriptLint.Server.Framework

/-! # Diagnostics

The form of findings in the language server protocol. Lines and characters count from zero there, and
a range ends before its end position, so that an end column carries over as it is. A finding whose ends
the framework does not take as points cannot be published.
-/

namespace ScriptLint.Server

inductive DiagnosticSeverity where
  | error
  | warning
  | information
  deriving DecidableEq, Repr

/-- The number of a severity in the protocol. -/
def DiagnosticSeverity.number : DiagnosticSeverity → Nat
  | .error => 1
  | .warning => 2
  | .information => 3

/-- A finding as it is published. -/
structure Diagnostic where
  start : Point
  stop : Point
  message : String
  severity : DiagnosticSeverity
  code : String
  /-- The program that it is from. -/
  source : String
  deriving DecidableEq, Repr

def DiagnosticSeverity.ofSeverity : Severity → DiagnosticSeverity
  | .error => .error
  | .parseError => .error
  | .warning => .warning
  | .information => .information

/-- A finding as it is published. Its start is looked at first. -/
def Diagnostic.ofRecord (framework : Framework) (record : Record) : Except Failure Diagnostic :=
  match framework.point (record.extent.start.line - 1) (record.extent.start.column - 1) with
  | .error cause => .error cause
  | .ok start =>
    (framework.point (record.extent.stop.line - 1) record.extent.stop.column).map fun stop => {
      start, stop
      message := record.message
      severity := .ofSeverity record.severity
      code := record.ruleName
      source := "pslint" }

def Diagnostic.ofRecords (framework : Framework) : List Record → Except Failure (List Diagnostic)
  | [] => .ok []
  | record :: rest =>
    match ofRecord framework record with
    | .error cause => .error cause
    | .ok diagnostic => (ofRecords framework rest).map (diagnostic :: ·)

end ScriptLint.Server
