import ScriptLint.Config

/-! # The configuration section of a document

The section `tool.pslint` of a document holds the configuration. Its three entries are checked in turn,
and the first departure from their shape is the failure. Names may be given as a list, as a table whose
keys count, or as a text whose characters count. Of the option tables of rules only the entries with
integers, texts and truth values count, and of two tables for one rule the later.
-/

namespace ScriptLint.Config

open Toml (Table Value)

/-- An entry of a section, which may be missing. A section that is no table has no entries. -/
def member (name : String) : Value → Except ShapeFault (Option Value)
  | .table entries => .ok (OrderedMap.find? name entries)
  | value => .error (.sectionNotTable value.kind)

/-- The section of a document, empty if it is missing. -/
def sectionOf (document : Table) : Except ShapeFault Value := do
  let tool := (document.find? "tool").getD (.table [])
  let entry ← member "pslint" tool
  return entry.getD (.table [])

/-- Names in upper case from a list of values. -/
def namesOfItems : List Value → Except ShapeFault (List String)
  | [] => .ok []
  | .text name :: rest => (namesOfItems rest).map (Text.upper name :: ·)
  | value :: _ => .error (.nameNotText value.kind)

def namesOf : Value → Except ShapeFault (List String)
  | .array items => namesOfItems items
  | .table entries => .ok ((OrderedMap.keys entries).map Text.upper)
  | .text name => .ok (name.toList.map fun c => Text.upper (String.singleton c))
  | value => .error (.namesNotIterable value.kind)

/-- The option value that a configuration value is, if it is one. -/
def scalar? : Value → Option Scalar
  | .integer value => some (.int value)
  | .text value => some (.text value)
  | .boolean value => some (.bool value)
  | _ => none

/-- The option values in a table, in file order. -/
def optionValues (entries : Table) : OptionValues :=
  entries.filterMap fun entry => (scalar? entry.2).map (entry.1, ·)

def ruleEntry? : String × Value → Option (String × OptionValues)
  | (name, .table entries) => some (Text.upper name, optionValues entries)
  | _ => none

/-- Option values by rule, each rule by its name in upper case. -/
def ruleOptions : Value → Except ShapeFault (OrderedMap OptionValues)
  | .table entries => .ok (OrderedMap.ofPairs (entries.filterMap ruleEntry?))
  | value => .error (.rulesNotTable value.kind)

def ofSection (value : Value) : Except ShapeFault Config := do
  let selectEntry ← member "select" value
  let select ← match selectEntry with
    | none => pure none
    | some names => some <$> namesOf names
  let ignoreEntry ← member "ignore" value
  let ignore ← namesOf (ignoreEntry.getD (.array []))
  let rulesEntry ← member "rules" value
  let options ← ruleOptions (rulesEntry.getD (.table []))
  return { select, ignore, options }

/-- The configuration that a document holds. -/
def ofDocument (document : Table) : Except ShapeFault Config := do
  let value ← sectionOf document
  ofSection value

end ScriptLint.Config
