import ScriptLint.OrderedMap
import ScriptLint.Text.Case

/-! # Options of configurable rules

A configurable rule declares options, each with a name, a type, a default and the slot that holds
its value; every one starts with an option to enable it. Configuring offers values by name. Names are
compared in lower case, and of two options with one name the later is meant. An offer of the wrong type
or for an unknown name changes nothing.
-/

namespace ScriptLint

inductive Scalar where
  | int (value : Int)
  | text (value : String)
  | bool (value : Bool)
  deriving DecidableEq, Repr

inductive ScalarType where
  /-- Integers, which truth values are not. -/
  | int
  | text
  | bool
  deriving DecidableEq, Repr

def Scalar.type : Scalar → ScalarType
  | .int _ => .int
  | .text _ => .text
  | .bool _ => .bool

/-- Whether a value counts as true: zero and the empty text do not. -/
def Scalar.isTrue : Scalar → Bool
  | .int value => value ≠ 0
  | .text value => value ≠ ""
  | .bool value => value

/-- A value that is offered for an option. -/
inductive Offer where
  | scalar (value : Scalar)
  | foreign
  deriving DecidableEq, Repr

/-- A declared option. -/
structure RuleOption where
  name : String
  type : ScalarType
  default : Scalar
  /-- The slot that holds its value. -/
  slot : String
  deriving DecidableEq, Repr

namespace RuleOption

/-- The value of an offer, if its type is the type of the option. -/
def coerce (option : RuleOption) : Offer → Option Scalar
  | .scalar value => if value.type = option.type then some value else none
  | .foreign => none

/-- The option that every configurable rule starts with. -/
def enable : RuleOption where
  name := "Enable"
  type := .bool
  default := .bool false
  slot := "enable"

/-- The option that a name means. -/
def named? (schema : List RuleOption) (name : String) : Option RuleOption :=
  schema.reverse.find? fun option => Text.lower option.name == Text.lower name

end RuleOption

/-- The options of a rule with their current values. -/
structure Settings where
  /-- The options declared after the one that enables the rule. -/
  options : List RuleOption
  /-- The values by slot, in the order of declaration. -/
  values : OrderedMap Scalar
  deriving DecidableEq, Repr

namespace Settings

def schema (options : List RuleOption) : List RuleOption := .enable :: options

/-- Settings with the given values by slot, and defaults for all others. -/
def initial (options : List RuleOption) (given : OrderedMap Scalar) : Settings where
  options := options
  values := OrderedMap.ofPairs ((schema options).map fun option =>
    (option.slot, (given.find? option.slot).getD option.default))

def enable (settings : Settings) : Scalar :=
  (settings.values.find? RuleOption.enable.slot).getD RuleOption.enable.default

/-- The option and the value that an entry sets, if it sets one. -/
def accepted? (options : List RuleOption) (entry : String × Offer) : Option (RuleOption × Scalar) :=
  match RuleOption.named? (schema options) entry.1 with
  | none => none
  | some option => (option.coerce entry.2).map (option, ·)

/-- Settings after the values that entries set, one after the other; nothing if no entry sets one. -/
def configure (settings : Settings) (entries : List (String × Offer)) : Option Settings :=
  match entries.filterMap (accepted? settings.options) with
  | [] => none
  | changes => some { settings with
      values := OrderedMap.insertAll (changes.map fun change => (change.1.slot, change.2))
        settings.values }

end Settings

end ScriptLint
