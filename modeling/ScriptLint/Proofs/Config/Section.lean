import ScriptLint.Config.Load
import ScriptLint.Proofs.Config

/-! # Well-formed sections

A well-formed section gives names as lists of texts and the rules as a table, as far as it has these
entries. Then it holds a configuration, in which a rule has the option values of the last table that
stands under any spelling of its name.
-/

namespace ScriptLint.Config

open Toml (Table Value)

/-- What a well-formed section holds. -/
structure Written where
  /-- The rules to keep, all of them if nothing is given. -/
  select : Option (List String) := none
  ignore : Option (List String) := none
  /-- The option tables of rules, among other entries. -/
  rules : Option Table := none

def listOf (names : List String) : Value := .array (names.map .text)

/-- The option values of a rule, if an entry is a table under some spelling of its name. -/
def tableFor? (key : String) : String × Value → Option OptionValues
  | (name, .table entries) => if Text.upper name = key then some (optionValues entries) else none
  | _ => none

theorem namesOf_listOf (names : List String) : namesOf (listOf names) = .ok (names.map Text.upper) := by
  show namesOfItems (names.map .text) = _
  induction names with
  | nil => rfl
  | cons name rest ih => simp only [List.map_cons, namesOfItems, ih, Except.map]

theorem valueAt?_ruleEntry (key : String) (entry : String × Value) :
    ( ruleEntry? entry).bind (OrderedMap.valueAt? key) = tableFor? key entry := by
  obtain ⟨name, value⟩ := entry
  cases value <;> rfl

namespace Written

variable (written : Written)

/-- Whether this is what the section of a document holds. -/
def Describes (document : Table) : Prop :=
  ∃ entries : Table, sectionOf document = .ok (.table entries) ∧
    entries.find? "select" = written.select.map listOf ∧
    entries.find? "ignore" = written.ignore.map listOf ∧
    entries.find? "rules" = written.rules.map .table

/-- Whether a rule is kept: it is selected, if there is a selection, and not ignored. -/
def Keeps (key : String) : Prop :=
  (∀ names, written.select = some names → ∃ name ∈ names, Text.upper name = key) ∧
    ∀ name ∈ written.ignore.getD [], Text.upper name ≠ key

/-- The option values of a rule: those of the last table for it. -/
def values (key : String) : OptionValues :=
  ((written.rules.getD []).filterMap (tableFor? key)).getLast?.getD []

/-- The configuration that a well-formed section holds. -/
def config : Config where
  select := written.select.map fun names => names.map Text.upper
  ignore := (written.ignore.getD []).map Text.upper
  options := OrderedMap.ofPairs ((written.rules.getD []).filterMap ruleEntry?)

variable {written}

theorem ofDocument_eq {document : Table} (describes : written.Describes document) :
    ofDocument document = .ok written.config := by
  obtain ⟨entries, located, select, ignore, rules⟩ := describes
  have ignored : namesOf ((written.ignore.map listOf).getD (.array [])) =
      .ok ((written.ignore.getD []).map Text.upper) := by
    cases written.ignore with
    | none => rfl
    | some names => exact namesOf_listOf names
  have options : ruleOptions ((written.rules.map Value.table).getD (.table [])) =
      .ok (OrderedMap.ofPairs ((written.rules.getD []).filterMap ruleEntry?)) := by
    cases written.rules <;> rfl
  simp only [ofDocument, located, ofSection, member, select, ignore, rules, bind, Except.bind, pure,
    Except.pure, ignored, options, config]
  cases written.select with
  | none => rfl
  | some names => simp only [Option.map_some, namesOf_listOf, Functor.map, Except.map]

theorem allows_config_iff (key : String) : written.config.allows key = true ↔ written.Keeps key := by
  have unignored : (written.config.ignore.contains key = false) ↔
      ∀ name ∈ written.ignore.getD [], Text.upper name ≠ key := by
    simp only [config, List.contains_eq_mem, decide_eq_false_iff_not, List.mem_map, not_exists, not_and, ne_eq]
  unfold allows Keeps
  rw [Bool.and_eq_true, Bool.not_eq_true', unignored]
  refine and_congr_left fun _ => ?_
  cases selected : written.select with
  | none => simp only [config, selected, Option.map_none, reduceCtorEq, false_implies, implies_true]
  | some names =>
    simp only [config, selected, Option.map_some, List.contains_eq_mem, decide_eq_true_eq, List.mem_map,
      Option.some.injEq, forall_eq']

/-- Of several tables for one rule the last one counts. -/
theorem getD_find?_options (key : String) :
    (written.config.options.find? key).getD [] = written.values key := by
  unfold config values
  rw [OrderedMap.find?_ofPairs, OrderedMap.last?, List.filterMap_filterMap]
  simp only [valueAt?_ruleEntry]

end Written

section Load
variable {workspace : Workspace} {start : Option Path} {config : Config} {path : Path} {location : Location}
variable {bytes : List UInt8} {root : Table}

theorem load_of_closest (closest : closest? workspace (start.getD workspace.currentPath) = .ok (some path))
    (leads : workspace.find path = .ok (location, .file bytes)) : load workspace start = ofBytes path bytes := by
  have read : workspace.read path = .ok bytes := by
    rw [Workspace.read, leads]
  simp only [load, closest, read]

/-- Without a configuration file the configuration is the default one. -/
theorem load_of_none (nothing : closest? workspace (start.getD workspace.currentPath) = .ok none) :
    load workspace start = ⟨[], .ok {}⟩ := by
  rw [load, nothing]
  rfl

theorem load_of_error {fault : AccessFault}
    (stuck : closest? workspace (start.getD workspace.currentPath) = .error fault) :
    load workspace start = ⟨[], .error (.inaccessible fault)⟩ := by
  rw [load, stuck]
  rfl

theorem ofBytes_of_document (parsed : document bytes = .ok (some root)) :
    ofBytes path bytes = ⟨[.configLoaded path], (ofDocument root).mapError .shape⟩ := by
  simp only [ofBytes, parsed, Traced.ofResult, Traced.note, bind, Traced.bind]
  cases ofDocument root <;> rfl

theorem ofBytes_of_ignored (ignored : document bytes = .ok none) :
    ofBytes path bytes = ⟨[.configIgnored path], .ok {}⟩ := by
  rw [ofBytes, ignored]
  rfl

/-- What is no document is passed over with one warning, or fails without a word. -/
theorem ofBytes_of_refused (refused : ∀ root, document bytes ≠ .ok (some root)) :
    (document bytes = .ok none ∧ ofBytes path bytes = ⟨[.configIgnored path], .ok {}⟩) ∨
      ∃ cause, document bytes = .error cause ∧ ofBytes path bytes = ⟨[], .error cause⟩ := by
  cases read : document bytes with
  | error cause =>
    refine .inr ⟨cause, rfl, ?_⟩
    rw [ofBytes, read]
    rfl
  | ok root =>
    cases root with
    | some root => exact absurd read (refused root)
    | none => exact .inl ⟨rfl, ofBytes_of_ignored read⟩

/-- The closest configuration file at a starting point leads to a configuration. -/
theorem result_load_at (closest : closest? workspace (start.getD workspace.currentPath) = .ok (some path))
    (leads : workspace.find path = .ok (location, .file bytes)) (parsed : document bytes = .ok (some root))
    (shaped : ofDocument root = .ok config) : (load workspace start).result = .ok config := by
  rw [load_of_closest closest leads, ofBytes_of_document parsed, shaped]
  rfl

end Load

theorem result_load {workspace : Workspace} {config : Config} {path : Path} {location : Location}
    {bytes : List UInt8} {root : Table} (closest : closest? workspace workspace.currentPath = .ok (some path))
    (leads : workspace.find path = .ok (location, .file bytes))
    (parsed : document bytes = .ok (some root))
    (shaped : ofDocument root = .ok config) :
    (load workspace none).result = .ok config :=
  result_load_at closest leads parsed shaped

/-- The built-in rules with the configuration that holds at a starting point. -/
def rulesAt (strings : Strings) (workspace : Workspace) (start : Option Path) : Traced (List Rule) := do
  let config ← load workspace start
  config.apply strings Rule.builtin

/-- Under the shipped texts a configuration that loads leaves the rule against long lines or nothing. -/
theorem result_rulesAt {workspace : Workspace} {start : Option Path} {config : Config} (preferred : Option String)
    (loaded : (load workspace start).result = .ok config) :
    (rulesAt (Strings.shippedFor preferred) workspace start).result =
      .ok (if config.allows LongLines.shippedKey then
        [.longLines (LongLines.configuredBy ((config.options.find? LongLines.shippedKey).getD []))] else []) := by
  rw [rulesAt, Traced.result_bind, loaded, Except.bind, LongLines.result_apply_builtin]

end ScriptLint.Config
