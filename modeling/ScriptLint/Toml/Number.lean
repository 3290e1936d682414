import ScriptLint.Text.Digits
import ScriptLint.Toml.Value

/-! # TOML numbers

Integers in four bases and floating-point numbers. Digits may be separated by single underscores. A
reader takes the longest number at the front of a text; what follows it is judged by the caller.
-/

namespace ScriptLint.Toml

open Text (isBinary isOctal isHexadecimal digitsValue maxDecimalDigits)

/-- A number as it is written. -/
inductive Numeral where
  /-- An integer with its sign, base and digits, without underscores. -/
  | integer (negative : Bool) (base : Nat) (digits : List Char)
  | float (literal : List Char)
  deriving DecidableEq, Repr

/-- The digits that follow a first digit, each with at most one underscore before it. -/
def moreDigits (isDigit : Char → Bool) : List Char → List Char × List Char
  | [] => ([], [])
  | '_' :: c :: rest =>
    if isDigit c then
      let (digits, rest) := moreDigits isDigit rest
      (c :: digits, rest)
    else ([], '_' :: c :: rest)
  | c :: rest =>
    if isDigit c then
      let (digits, rest) := moreDigits isDigit rest
      (c :: digits, rest)
    else ([], c :: rest)

/-- Digits, of which there is at least one. -/
def digits? (isDigit : Char → Bool) : List Char → Option (List Char × List Char)
  | [] => none
  | c :: rest =>
    if isDigit c then
      let (digits, rest) := moreDigits isDigit rest
      some (c :: digits, rest)
    else none

def based? : List Char → Option (Numeral × List Char)
  | '0' :: 'x' :: rest =>
    (digits? isHexadecimal rest).map fun (digits, rest) => (.integer false 16 digits, rest)
  | '0' :: 'o' :: rest =>
    (digits? isOctal rest).map fun (digits, rest) => (.integer false 8 digits, rest)
  | '0' :: 'b' :: rest =>
    (digits? isBinary rest).map fun (digits, rest) => (.integer false 2 digits, rest)
  | _ => none

/-- The whole part of a decimal number: a zero, or digits that do not begin with one. -/
def whole? : List Char → Option (List Char × List Char)
  | '0' :: rest => some (['0'], rest)
  | source => digits? Char.isDigit source

/-- The fraction of a decimal number with its point, nothing if there is none. -/
def fraction (source : List Char) : List Char × List Char :=
  match source with
  | '.' :: rest =>
    match digits? Char.isDigit rest with
    | some (digits, rest) => ('.' :: digits, rest)
    | none => ([], source)
  | _ => ([], source)

def sign : List Char → List Char × List Char
  | '+' :: rest => (['+'], rest)
  | '-' :: rest => (['-'], rest)
  | source => ([], source)

/-- The exponent of a decimal number with its letter, nothing if there is none. -/
def exponent (source : List Char) : List Char × List Char :=
  match source with
  | [] => ([], source)
  | letter :: rest =>
    if letter = 'e' ∨ letter = 'E' then
      let (mark, rest) := sign rest
      match digits? Char.isDigit rest with
      | some (digits, rest) => ('e' :: mark ++ digits, rest)
      | none => ([], source)
    else ([], source)

def decimal? (source : List Char) : Option (Numeral × List Char) :=
  let (mark, rest) := sign source
  match whole? rest with
  | none => none
  | some (digits, rest) =>
    let (places, rest) := fraction rest
    let (scale, rest) := exponent rest
    if places.isEmpty && scale.isEmpty then some (.integer (mark == ['-']) 10 digits, rest)
    else some (.float (mark ++ digits ++ places ++ scale), rest)

def special? (source : List Char) : Option (Numeral × List Char) :=
  let (mark, rest) := sign source
  match rest with
  | 'i' :: 'n' :: 'f' :: rest => some (.float (mark ++ ['i', 'n', 'f']), rest)
  | 'n' :: 'a' :: 'n' :: rest => some (.float (mark ++ ['n', 'a', 'n']), rest)
  | _ => none

/-- The number at the front of a text. -/
def numeral? (source : List Char) : Option (Numeral × List Char) :=
  based? source <|> decimal? source <|> special? source

/-- The value of a number. Only decimal integers are limited in length. -/
def Numeral.value : Numeral → Except Fault Value
  | .float literal => .ok (.float (String.ofList literal))
  | .integer negative base digits =>
    if base = 10 ∧ maxDecimalDigits < digits.length then .error (.integerTooLong digits.length)
    else
      let magnitude : Int := digitsValue base digits
      .ok (.integer (if negative then -magnitude else magnitude))

end ScriptLint.Toml
