import ScriptLint.OrderedMap

/-! # TOML values

The data that a configuration file can hold. Tables keep their entries in file order.
-/

namespace ScriptLint.Toml

structure Date where
  year : Nat
  /-- The month, from one. -/
  month : Nat
  /-- The day of the month, from one. -/
  day : Nat
  deriving DecidableEq, Repr

structure Time where
  hour : Nat
  minute : Nat
  second : Nat
  /-- The digits of the fraction of a second. -/
  fraction : List Char
  deriving DecidableEq, Repr

/-- A value of a configuration file. -/
inductive Value where
  | text (value : String)
  | integer (value : Int)
  /-- A floating-point number, as it is written. -/
  | float (literal : String)
  | boolean (value : Bool)
  | date (date : Date)
  | time (time : Time)
  /-- A day and a time of day, with the offset from universal time in minutes if one is given. -/
  | dateTime (date : Date) (time : Time) (offset : Option Int)
  | array (items : List Value)
  | table (entries : List (String × Value))

/-- The entries of a table, in file order. -/
abbrev Table : Type := OrderedMap Value

inductive Kind where
  | text
  | integer
  | float
  | boolean
  | date
  | time
  | dateTime
  | array
  | table
  deriving DecidableEq, Repr

def Value.kind : Value → Kind
  | .text _ => .text
  | .integer _ => .integer
  | .float _ => .float
  | .boolean _ => .boolean
  | .date _ => .date
  | .time _ => .time
  | .dateTime .. => .dateTime
  | .array _ => .array
  | .table _ => .table

def Kind.name : Kind → String
  | .text => "str"
  | .integer => "int"
  | .float => "float"
  | .boolean => "bool"
  | .date => "datetime.date"
  | .time => "datetime.time"
  | .dateTime => "datetime.datetime"
  | .array => "list"
  | .table => "dict"

inductive Fault where
  /-- It is not TOML, or it defines something twice. -/
  | malformed
  | integerTooLong (digits : Nat)
  | nestedTooDeep
  deriving DecidableEq, Repr

/-- A reader takes a value from the front of a text and leaves the rest. -/
abbrev Reader (α : Type) : Type := List Char → Except Fault (α × List Char)

/-- Characters that separate tokens within a line. -/
def isBlank (c : Char) : Bool := c = ' ' || c = '\t'

def isControl (c : Char) : Bool := c.toNat < 32 || c.toNat = 127

/-- Characters that may not stand in a comment or in a string of one line. -/
def isIllegal (c : Char) : Bool := isControl c && c ≠ '\t'

end ScriptLint.Toml
