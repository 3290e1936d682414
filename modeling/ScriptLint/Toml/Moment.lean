import ScriptLint.Text.Digits
import ScriptLint.Toml.Value

/-! # TOML dates and times

Days, times of day and their combinations. A reader takes the longest moment at the front of a text
by its shape; whether the day exists in the calendar is checked afterwards.
-/

namespace ScriptLint.Toml

def twoDigits? : List Char → Option (Nat × List Char)
  | tens :: ones :: rest =>
    if tens.isDigit && ones.isDigit then some (Text.digitsValue 10 [tens, ones], rest) else none
  | _ => none

def twoDigitsIn? (low high : Nat) (source : List Char) : Option (Nat × List Char) :=
  match twoDigits? source with
  | some (value, rest) => if low ≤ value ∧ value ≤ high then some (value, rest) else none
  | none => none

def char? (c : Char) : List Char → Option (List Char)
  | first :: rest => if first = c then some rest else none
  | [] => none

/-- A day by its shape: four digits, month and day of the month. -/
def date? (source : List Char) : Option (Date × List Char) := do
  let (century, rest) ← twoDigits? source
  let (year, rest) ← twoDigits? rest
  let rest ← char? '-' rest
  let (month, rest) ← twoDigitsIn? 1 12 rest
  let rest ← char? '-' rest
  let (day, rest) ← twoDigitsIn? 1 31 rest
  some (⟨century * 100 + year, month, day⟩, rest)

/-- The fraction of a second, nothing if there is none. -/
def secondFraction : List Char → List Char × List Char
  | '.' :: c :: rest =>
    if c.isDigit then (c :: rest.takeWhile Char.isDigit, rest.dropWhile Char.isDigit)
    else ([], '.' :: c :: rest)
  | source => ([], source)

def time? (source : List Char) : Option (Time × List Char) := do
  let (hour, rest) ← twoDigitsIn? 0 23 source
  let rest ← char? ':' rest
  let (minute, rest) ← twoDigitsIn? 0 59 rest
  let rest ← char? ':' rest
  let (second, rest) ← twoDigitsIn? 0 59 rest
  let (digits, rest) := secondFraction rest
  some (⟨hour, minute, second, digits⟩, rest)

/-- An offset from universal time in minutes. -/
def offset? : List Char → Option (Int × List Char)
  | [] => none
  | c :: rest =>
    if c = 'Z' ∨ c = 'z' then some (0, rest)
    else if c = '+' ∨ c = '-' then do
      let (hours, rest) ← twoDigitsIn? 0 23 rest
      let rest ← char? ':' rest
      let (minutes, rest) ← twoDigitsIn? 0 59 rest
      let distance : Int := hours * 60 + minutes
      some (if c = '-' then -distance else distance, rest)
    else none

/-- A time of day after the letter or the blank that joins it to a day. -/
def joinedTime? : List Char → Option (Time × List Char)
  | [] => none
  | c :: rest => if c = 'T' ∨ c = 't' ∨ c = ' ' then time? rest else none

def isLeapYear (year : Nat) : Bool :=
  year % 4 = 0 && (year % 100 ≠ 0 || year % 400 = 0)

def daysInMonth (year month : Nat) : Nat :=
  if month = 2 then (if isLeapYear year then 29 else 28)
  else if month = 4 ∨ month = 6 ∨ month = 9 ∨ month = 11 then 30
  else 31

/-- Whether a day is in the calendar, which starts with the year one. -/
def Date.isInCalendar (date : Date) : Bool :=
  1 ≤ date.year && date.day ≤ daysInMonth date.year date.month

/-- The moment at the front of a text: a day, alone or with a time of day, or a time of day. A day
that is not in the calendar is malformed. -/
def moment? (source : List Char) : Option (Except Fault Value × List Char) :=
  match date? source with
  | some (date, rest) =>
    let (value, rest) :=
      match joinedTime? rest with
      | some (time, rest) =>
        match offset? rest with
        | some (offset, rest) => (Value.dateTime date time (some offset), rest)
        | none => (Value.dateTime date time none, rest)
      | none => (Value.date date, rest)
    some (if date.isInCalendar then .ok value else .error .malformed, rest)
  | none => (time? source).map fun (time, rest) => (.ok (.time time), rest)

end ScriptLint.Toml
