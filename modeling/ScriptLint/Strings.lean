import ScriptLint.OrderedMap
import ScriptLint.Text.Case
import ScriptLint.Traced

/-! # Localized texts

Texts for users are templates in tables, one table for each culture. A culture without a table of its
own gets the first table of its language, and the table of `en-US` if there is none either. A table
may be partial: what it lacks comes from the table of `en-US`, never from another one.
-/

namespace ScriptLint

/-- The templates of one culture. -/
abbrev StringTable : Type := OrderedMap String

/-- The keys of the texts that rules use. -/
inductive TextKey where
  | sourceName
  /-- How a source and a rule name are joined. -/
  | nameSpaceFormat
  | longLinesName
  | longLinesCommonName
  | longLinesDescription
  | longLinesError
  deriving DecidableEq, Repr

def TextKey.name : TextKey → String
  | .sourceName => "SourceName"
  | .nameSpaceFormat => "NameSpaceFormat"
  | .longLinesName => "AvoidLongLinesName"
  | .longLinesCommonName => "AvoidLongLinesCommonName"
  | .longLinesDescription => "AvoidLongLinesDescription"
  | .longLinesError => "AvoidLongLinesError"

def shippedTable : StringTable := [
  (TextKey.sourceName.name, "PS"),
  (TextKey.nameSpaceFormat.name, "\x7b0\x7d\x7b1\x7d"),
  (TextKey.longLinesName.name, "AvoidLongLines"),
  (TextKey.longLinesCommonName.name, "Avoid long lines"),
  (TextKey.longLinesDescription.name, "Line lengths should be less than the configured maximum"),
  (TextKey.longLinesError.name,
    "Line exceeds the configured maximum length of \x7b0\x7d characters")]

/-- String tables and the culture that the user prefers. -/
structure Strings where
  /-- The tables by culture, in the order in which languages are searched. -/
  tables : OrderedMap StringTable
  /-- The preferred culture; the empty text counts as none. -/
  preferred : Option String := none

namespace Strings

def shipped : Strings := { tables := [(defaultCulture, shippedTable)] }

/-- Add tables, each in place of an earlier one of the same name. -/
def withTables (strings : Strings) (tables : List (String × StringTable)) : Strings :=
  { strings with tables := OrderedMap.insertAll tables strings.tables }

/-- A culture if one is named. -/
def named? : Option String → Option String
  | some culture => if culture = "" then none else some culture
  | none => none

/-- The culture that texts are shown in unless another one is asked for. -/
def currentCulture (strings : Strings) : String :=
  (named? strings.preferred).getD defaultCulture

/-- The language of a culture: what stands before the first hyphen, in lower case. -/
def language (culture : String) : String :=
  Text.lower (String.ofList (culture.toList.takeWhile (· ≠ '-')))

/-- The first table of a language. -/
def tableOfLanguage? (name : String) : OrderedMap StringTable → Option StringTable
  | [] => none
  | (culture, table) :: rest =>
    if language culture = name then some table else tableOfLanguage? name rest

/-- The table of a culture or, failing that, of its language. -/
def table? (strings : Strings) (culture : String) : Option StringTable :=
  match strings.tables.find? culture with
  | some table => some table
  | none => tableOfLanguage? (language culture) strings.tables

/-- The table that fills the gaps of all others. -/
def defaultTable (strings : Strings) : StringTable :=
  (strings.tables.find? defaultCulture).getD []

def resolve (strings : Strings) (culture : String) : Traced StringTable :=
  match strings.table? culture with
  | some table => pure table
  | none => do
    Traced.note (.cultureUnknown culture)
    return strings.defaultTable

/-- The text of a key with its arguments, in the given culture or the current one. -/
def lookup (strings : Strings) (key : String) (arguments : List Text.Template.Argument)
    (culture : Option String) : Traced String := do
  let table ← strings.resolve ((named? culture).getD strings.currentCulture)
  match table.find? key <|> strings.defaultTable.find? key with
  | none => Traced.fail (.unknownText key)
  | some template =>
    match Text.Template.format template arguments with
    | .error fault => Traced.fail (.template fault)
    | .ok text => pure text

def text (strings : Strings) (key : TextKey) (arguments : List Text.Template.Argument) :
    Traced String :=
  strings.lookup key.name arguments none

end Strings

end ScriptLint
