import Mathlib
import ScriptLint.Proofs.Config.Section

/-! # Last words of a configuration file

A well-formed configuration file comes to the rule against long lines, if it keeps that rule, and to no
rule otherwise. Each option of the rule has the last value of its type that the table of the rule has
under some spelling of the name of the option. The table of the rule is the last table under some
spelling of its name; no earlier one counts, and nor does any other entry.
-/

namespace ScriptLint.Config

open Toml (Table Value)

def asTable? : Value → Option Table
  | .table entries => some entries
  | _ => none

def asBoolean? : Value → Option Bool
  | .boolean value => some value
  | _ => none

def asInteger? : Value → Option Int
  | .integer value => some value
  | _ => none

/-- The last entry of a table that has a fitting key and can be read. -/
def lastUnder? {α : Type} (fits : String → Bool) (read : Value → Option α) (entries : Table) : Option α :=
  (entries.filterMap fun entry => if fits entry.1 then read entry.2 else none).getLast?

/-- The options of the rule against long lines as a table gives them. -/
def longLinesOf (entries : Table) : LongLines where
  enable := (lastUnder? (fun key => Text.lower key = "enable") asBoolean? entries).getD false
  lineLength := (lastUnder? (fun key => Text.lower key = "linelength") asInteger? entries).getD 120

/-- The table for a rule: the last one under some spelling of its name. -/
def Written.tableOf (written : Written) (key : String) : Table :=
  (lastUnder? (fun name => Text.upper name = key) asTable? (written.rules.getD [])).getD []

theorem values_eq_optionValues (written : Written) (key : String) :
    written.values key = optionValues (written.tableOf key) := by
  have entry (entry : String × Value) : tableFor? key entry =
      (if Text.upper entry.1 = key then asTable? entry.2 else none).map optionValues := by
    obtain ⟨name, value⟩ := entry
    cases value <;> simp only [tableFor?, asTable?, apply_ite (Option.map optionValues), Option.map_some,
      Option.map_none, ite_self]
  have tables : (written.rules.getD []).filterMap (tableFor? key) =
      ((written.rules.getD []).filterMap fun entry =>
        if Text.upper entry.1 = key then asTable? entry.2 else none).map optionValues := by
    rw [List.map_filterMap]
    exact List.filterMap_congr fun member _ => entry member
  rw [Written.values, tables, List.getLast?_map, Written.tableOf, lastUnder?]
  simp only [decide_eq_true_eq]
  cases (((written.rules.getD []).filterMap fun entry =>
    if Text.upper entry.1 = key then asTable? entry.2 else none).getLast?) <;> rfl

theorem configuredBy_optionValues (entries : Table) :
    LongLines.configuredBy (optionValues entries) = longLinesOf entries := by
  have enable : LongLines.lastEnable? (optionValues entries) =
      lastUnder? (fun key => Text.lower key = "enable") asBoolean? entries := by
    rw [LongLines.lastEnable?, optionValues, List.filterMap_filterMap, lastUnder?]
    congr 1
    refine List.filterMap_congr fun entry _ => ?_
    obtain ⟨key, value⟩ := entry
    cases value <;> simp [scalar?, LongLines.enableValue?, LongLines.enableOffer?, asBoolean?]
  have length : LongLines.lastLength? (optionValues entries) =
      lastUnder? (fun key => Text.lower key = "linelength") asInteger? entries := by
    rw [LongLines.lastLength?, optionValues, List.filterMap_filterMap, lastUnder?]
    congr 1
    refine List.filterMap_congr fun entry _ => ?_
    obtain ⟨key, value⟩ := entry
    cases value <;> simp [scalar?, LongLines.lengthValue?, LongLines.lengthOffer?, asInteger?]
  rw [LongLines.configuredBy, enable, length, longLinesOf]

section Meaning
variable {workspace : Workspace} {start : Option Path} {path : Path} {location : Location} {bytes : List UInt8}
variable {root : Table} {written : Written}

/-- What a well-formed configuration file comes to under the shipped texts. -/
theorem rulesAt_last_words (preferred : Option String)
    (closest : closest? workspace (start.getD workspace.currentPath) = .ok (some path))
    (leads : workspace.find path = .ok (location, .file bytes)) (parsed : document bytes = .ok (some root))
    (describes : written.Describes root) :
    (written.Keeps LongLines.shippedKey →
      (rulesAt (Strings.shippedFor preferred) workspace start).result =
        .ok [.longLines (longLinesOf (written.tableOf LongLines.shippedKey))]) ∧
    (¬ written.Keeps LongLines.shippedKey →
      (rulesAt (Strings.shippedFor preferred) workspace start).result = .ok []) := by
  have loaded := result_load_at closest leads parsed (Written.ofDocument_eq describes)
  have rules : (rulesAt (Strings.shippedFor preferred) workspace start).result =
      .ok (if written.config.allows LongLines.shippedKey then
        [.longLines (longLinesOf (written.tableOf LongLines.shippedKey))] else []) := by
    rw [result_rulesAt preferred loaded, Written.getD_find?_options, values_eq_optionValues,
      configuredBy_optionValues]
  refine ⟨fun keeps => ?_, fun dropped => ?_⟩
  · rw [rules, if_pos ((Written.allows_config_iff _).mpr keeps)]
  · rw [rules, if_neg fun allowed => dropped ((Written.allows_config_iff _).mp allowed)]

end Meaning

section Samples

/-- A configuration with two tables for the rule, the later one under another spelling. -/
def respelled : String :=
  "[tool.pslint.rules]\nPSAvoidLongLines.Enable=true\npsavoidlonglines=\x7bLineLength=5,linelength=7,ENABLE=1\x7d"

def respelledRules : Table :=
  [("PSAvoidLongLines", .table [("Enable", .boolean true)]),
    ("psavoidlonglines", .table [("LineLength", .integer 5), ("linelength", .integer 7), ("ENABLE", .integer 1)])]

/-- That configuration in the directory above the working directory. -/
def respelledAbove : Workspace where
  tree := ⟨[([fileName], .file (Text.Utf8.encode respelled)), (["scripts"], .directory)]⟩
  directory := ["scripts"]

set_option maxRecDepth 4000 in
theorem rulesAt_last_words_respelled :
    (rulesAt (Strings.shippedFor none) respelledAbove none).result =
      .ok [.longLines { enable := false, lineLength := 7 }] := by
  have parsed : document (Text.Utf8.encode respelled) =
      .ok (some [("tool", .table [("pslint", .table [("rules", .table respelledRules)])])]) := by
    cbv
  have closest : closest? respelledAbove respelledAbove.currentPath = .ok (some ⟨"/", [fileName]⟩) := rfl
  have describes : Written.Describes { rules := some respelledRules }
      [("tool", .table [("pslint", .table [("rules", .table respelledRules)])])] :=
    ⟨_, rfl, rfl, rfl, rfl⟩
  have keeps : Written.Keeps { rules := some respelledRules } LongLines.shippedKey :=
    (Written.allows_config_iff _).mp (by decide +kernel)
  have words : longLinesOf (Written.tableOf { rules := some respelledRules } LongLines.shippedKey) =
      { enable := false, lineLength := 7 } := by
    decide +kernel
  rw [← words]
  exact (rulesAt_last_words none closest rfl parsed describes).1 keeps

end Samples

end ScriptLint.Config
