import ScriptLint.Text.Digits
import ScriptLint.Text.Quoted

/-! # Message templates

A template is text with fields in braces: `{0}` stands for the first argument, `{}` for the next
one, and a doubled brace for a single brace. A template is read into pieces, followed by the flaw
that ends it if it is malformed. Pieces are filled in from the left, and the first piece that cannot
be filled in, or at last the flaw, decides the failure. Texts of arguments are copied as they are, and
an integer with too many digits has no text.
-/

namespace ScriptLint.Text.Template

inductive Argument where
  | none
  | bool (value : Bool)
  | int (value : Int)
  | text (value : String)
  deriving DecidableEq, Repr

/-- What the braces of a field hold. -/
inductive Field where
  /-- Nothing: the next argument. -/
  | next
  | numbered (index : Nat)
  /-- Digits of a number that is too large. -/
  | oversized
  | named (name : String)
  deriving DecidableEq, Repr

/-- A part of a template. -/
inductive Piece where
  | literal (c : Char)
  | field (field : Field)
  deriving DecidableEq, Repr

/-- Why a template ends before its text does. -/
inductive Flaw where
  /-- An opening brace is the last character. -/
  | loneOpen
  /-- A closing brace is not doubled. -/
  | loneClose
  /-- A field contains an opening brace. -/
  | openInField
  /-- A field has no closing brace. -/
  | unclosedField
  deriving DecidableEq, Repr

/-- Why a template cannot be filled in. -/
inductive Fault where
  | malformed (flaw : Flaw)
  /-- A numbered field comes before a field for the next argument. -/
  | numberedThenNext
  /-- A field for the next argument comes before a numbered field. -/
  | nextThenNumbered
  | missing (index : Nat)
  | unknownName (name : String)
  | indexTooLarge
  /-- An integer has too many digits to be shown. -/
  | integerTooLong
  deriving DecidableEq, Repr

def Flaw.message : Flaw → String
  | .loneOpen => "Single '\x7b' encountered in format string"
  | .loneClose => "Single '\x7d' encountered in format string"
  | .openInField => "unexpected '\x7b' in field name"
  | .unclosedField => "expected '\x7d' before end of string"

def Fault.message : Fault → String
  | .malformed flaw => flaw.message
  | .numberedThenNext =>
    "cannot switch from manual field specification to automatic field numbering"
  | .nextThenNumbered =>
    "cannot switch from automatic field numbering to manual field specification"
  | .missing index =>
    "Replacement index " ++ toString index ++ " out of range for positional args tuple"
  | .unknownName name => quoted name
  | .indexTooLarge => "Too many decimal digits in format string"
  | .integerTooLong =>
    "Exceeds the limit (" ++ toString maxDecimalDigits ++
      " digits) for integer string conversion; use sys.set_int_max_str_digits() to increase the limit"

def Argument.shown : Argument → Except Fault String
  | .none => .ok "None"
  | .bool true => .ok "True"
  | .bool false => .ok "False"
  | .int value => if IsShort value then .ok (toString value) else .error .integerTooLong
  | .text value => .ok value

/-- The greatest number that a field may hold. -/
def maxIndex : Nat := 0x7fffffffffffffff

/-- The field of a name after digits that denote a number. What follows digits of too large a number
is not looked at. -/
def Field.ofDigits (name : String) (index : Nat) : List Char → Field
  | [] => .numbered index
  | c :: rest =>
    match decimalValue? c with
    | none => .named name
    | some digit =>
      if maxIndex < index * 10 + digit then .oversized
      else ofDigits name (index * 10 + digit) rest

/-- The field that a text between braces denotes. -/
def Field.ofName (name : List Char) : Field :=
  if name.isEmpty then .next else .ofDigits (String.ofList name) 0 name

/-- The pieces of a template up to its first flaw, and that flaw if there is one. The first argument
holds the text of the field that is being read, last character first. -/
def readFrom : Option (List Char) → List Char → List Piece × Option Flaw
  | none, [] => ([], none)
  | none, '{' :: '{' :: rest =>
    let (pieces, flaw) := readFrom none rest
    (.literal '{' :: pieces, flaw)
  | none, '}' :: '}' :: rest =>
    let (pieces, flaw) := readFrom none rest
    (.literal '}' :: pieces, flaw)
  | none, '{' :: [] => ([], some .loneOpen)
  | none, '{' :: rest => readFrom (some []) rest
  | none, '}' :: _ => ([], some .loneClose)
  | none, c :: rest =>
    let (pieces, flaw) := readFrom none rest
    (.literal c :: pieces, flaw)
  | some _, [] => ([], some .unclosedField)
  | some _, '{' :: _ => ([], some .openInField)
  | some name, '}' :: rest =>
    let (pieces, flaw) := readFrom none rest
    (.field (.ofName name.reverse) :: pieces, flaw)
  | some name, c :: rest => readFrom (some (c :: name)) rest

/-- How the fields before a place chose their arguments. -/
inductive Numbering where
  | undecided
  | numbered
  /-- In order, up to the given argument. -/
  | next (index : Nat)
  deriving DecidableEq, Repr

/-- The argument number of a field and the numbering after it. -/
def Numbering.choose : Numbering → Field → Except Fault (Nat × Numbering)
  | .numbered, .next => .error .numberedThenNext
  | .undecided, .next => .ok (0, .next 1)
  | .next index, .next => .ok (index, .next (index + 1))
  | _, .named name => .error (.unknownName name)
  | _, .oversized => .error .indexTooLarge
  | .next _, .numbered _ => .error .nextThenNumbered
  | _, .numbered index => .ok (index, .numbered)

/-- Fill in pieces from the left. -/
def fill (arguments : List Argument) : Numbering → List Piece → Except Fault (List Char)
  | _, [] => .ok []
  | numbering, .literal c :: rest => (fill arguments numbering rest).map (c :: ·)
  | numbering, .field field :: rest =>
    match numbering.choose field with
    | .error fault => .error fault
    | .ok (index, numbering) =>
      match arguments[index]? with
      | none => .error (.missing index)
      | some argument =>
        match argument.shown with
        | .error fault => .error fault
        | .ok text => (fill arguments numbering rest).map (text.toList ++ ·)

def format (template : String) (arguments : List Argument) : Except Fault String :=
  let (pieces, flaw) := readFrom none template.toList
  match fill arguments .undecided pieces, flaw with
  | .error fault, _ => .error fault
  | .ok _, some flaw => .error (.malformed flaw)
  | .ok text, none => .ok (String.ofList text)

end ScriptLint.Text.Template
