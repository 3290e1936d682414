import ScriptLint.Toml.Value

/-! # Closed tables

TOML lets every table be declared once. A `Scope` remembers by their paths the tables that a header
or a dotted key has declared, and the arrays and inline tables, nothing below which may ever change.
Tables that the dotted keys of a section define stay open until the next header.
-/

namespace ScriptLint.Toml

/-- The path of a table from the root of a document. -/
abbrev KeyPath : Type := List String

/-- The tables that are closed at a place of a document. -/
structure Scope where
  /-- Tables that no further header may declare and no dotted key may extend. -/
  declared : List KeyPath := []
  /-- Values below which nothing may be defined. -/
  frozen : List KeyPath := []
  /-- Tables that are declared from the next header on. -/
  pending : List KeyPath := []

namespace Scope

/-- Whether a table is declared. The root never is. -/
def isDeclared (scope : Scope) (path : KeyPath) : Bool :=
  scope.declared.contains path

/-- Whether a path leads to or through a frozen value. -/
def isFrozen (scope : Scope) (path : KeyPath) : Bool :=
  scope.frozen.any fun frozen => frozen.isPrefixOf path

def declare (scope : Scope) (path : KeyPath) : Scope :=
  { scope with declared := path :: scope.declared }

def freeze (scope : Scope) (path : KeyPath) : Scope :=
  { scope with frozen := path :: scope.frozen }

/-- Declare a table from the next header on. -/
def postpone (scope : Scope) (path : KeyPath) : Scope :=
  { scope with pending := path :: scope.pending }

/-- Declare what was postponed. -/
def settle (scope : Scope) : Scope :=
  { scope with declared := scope.pending ++ scope.declared, pending := [] }

/-- Forget everything at and below a path. -/
def reopen (scope : Scope) (path : KeyPath) : Scope :=
  { scope with
    declared := scope.declared.filter fun other => !path.isPrefixOf other
    frozen := scope.frozen.filter fun other => !path.isPrefixOf other }

end Scope

end ScriptLint.Toml
