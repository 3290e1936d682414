import ScriptLint.Rule

/-! # Configurations

A configuration selects rules by name and gives them option values. Its names are in upper case, and
the name of a rule is compared in upper case. Selecting keeps the order of rules; a rule that no option
value applies to stays as it is.
-/

namespace ScriptLint

/-- Option values by option name. -/
abbrev OptionValues : Type := OrderedMap Scalar

/-- Which rules are run, with which option values. -/
structure Config where
  /-- The rules to keep, all of them if nothing is given. -/
  select : Option (List String) := none
  ignore : List String := []
  options : OrderedMap OptionValues := []
  deriving DecidableEq, Repr

namespace Rule

/-- The name by which a configuration means a rule. -/
def key (strings : Strings) (rule : Rule) : Traced String := do
  let name ← rule.name strings
  return Text.upper name

end Rule

namespace Config

/-- Whether the selection names a rule, or there is none. -/
def selects (strings : Strings) (config : Config) (rule : Rule) : Traced Bool :=
  match config.select with
  | none => pure true
  | some names => do
    let key ← rule.key strings
    return names.contains key

/-- Whether a rule is left out. -/
def ignores (strings : Strings) (config : Config) (rule : Rule) : Traced Bool := do
  let key ← rule.key strings
  return config.ignore.contains key

def keeps (strings : Strings) (config : Config) (rule : Rule) : Traced Bool := do
  let selected ← config.selects strings rule
  if selected then do
    let ignored ← config.ignores strings rule
    return !ignored
  else return false

def filterRules (strings : Strings) (config : Config) : List Rule → Traced (List Rule)
  | [] => pure []
  | rule :: rest => do
    let kept ← config.keeps strings rule
    let others ← filterRules strings config rest
    return if kept then rule :: others else others

def offers (values : OptionValues) : List (String × Offer) :=
  values.map fun entry => (entry.1, .scalar entry.2)

/-- A rule with the option values that the configuration has for it; nothing if it stays as it is. -/
def configured? (strings : Strings) (config : Config) (rule : Rule) : Traced (Option Rule) := do
  let key ← rule.key strings
  return match config.options.find? key with
    | none => none
    | some values => rule.configure (offers values)

def configureRules (strings : Strings) (config : Config) : List Rule → Traced (List Rule)
  | [] => pure []
  | rule :: rest => do
    let changed ← config.configured? strings rule
    let others ← configureRules strings config rest
    return changed.getD rule :: others

/-- The rules that are kept, with their option values. -/
def apply (strings : Strings) (config : Config) (rules : List Rule) : Traced (List Rule) := do
  let kept ← config.filterRules strings rules
  config.configureRules strings kept

end Config

end ScriptLint
