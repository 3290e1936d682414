import ScriptLint.Proofs.Config.Draft
import ScriptLint.Proofs.Text.Utf8
import ScriptLint.Proofs.Toml.Lines

/-! # Written configurations

A configuration that is written as a document is loaded again, with the names of rules in upper case. The
document has the selection, the names that are left out, and then a table for each rule with its option
values in order.
-/

namespace ScriptLint.Config

open Toml (Table Value KeyPath Draft EscapesControls Takes Reads writtenText writtenTexts)

section Writing
variable (escapes : Char → Bool)

def writtenScalar : Scalar → List Char
  | .int value => (toString value).toList
  | .text value => writtenText escapes value
  | .bool value => (toString value).toList

def headerLine (parts : List (List Char)) : List Char := '[' :: Toml.dotted parts ++ [']']

def valueLine (name value : List Char) : List Char := name ++ ' ' :: '=' :: ' ' :: value

/-- A line that gives a name to a list of names. -/
def namesLine (name : String) (names : List String) : List Char :=
  valueLine name.toList (writtenTexts escapes names)

def optionLine (entry : String × Scalar) : List Char :=
  valueLine (writtenText escapes entry.1) (writtenScalar escapes entry.2)

def ruleLines (rule : String × OptionValues) : List (List Char) :=
  headerLine ["tool".toList, "pslint".toList, "rules".toList, writtenText escapes rule.1] ::
    rule.2.map (optionLine escapes)

def lines (config : Config) : List (List Char) :=
  headerLine ["tool".toList, "pslint".toList] :: ((config.select.map (namesLine escapes "select")).toList ++
    namesLine escapes "ignore" config.ignore :: config.options.flatMap (ruleLines escapes))

/-- A configuration as a document. -/
def written (config : Config) : String := String.ofList (Toml.textOf (lines escapes config))

theorem length_le_namesLine (name : String) (names : List String) :
    names.length + 4 ≤ (namesLine escapes name names).length := by
  have items := Toml.length_le_writtenItems escapes names
  simp only [namesLine, valueLine, writtenTexts, List.length_append, List.length_cons]
  omega

theorem length_le_headerLine (parts : List (List Char)) : parts.length ≤ (headerLine parts).length := by
  have points := Toml.length_le_dotted parts
  simp only [headerLine, List.length_append, List.length_cons]
  omega

end Writing

/-- A configuration with all names of rules in upper case. -/
def withUpperNames (config : Config) : Config where
  select := config.select.map fun names => names.map Text.upper
  ignore := config.ignore.map Text.upper
  options := config.options.map fun rule => (Text.upper rule.1, rule.2)

/-- Whether an option value is no integer with too many digits. -/
def IsShort : Scalar → Prop
  | .int value => (Nat.toDigits 10 value.natAbs).length ≤ Text.maxDecimalDigits
  | _ => True

instance (scalar : Scalar) : Decidable (IsShort scalar) :=
  match scalar with
  | .int _ => inferInstanceAs (Decidable (_ ≤ _))
  | .text _ => .isTrue trivial
  | .bool _ => .isTrue trivial

/-- Whether a document can tell the rules and the options of a configuration apart and hold its numbers. -/
structure IsWritable (config : Config) : Prop where
  rules : (config.options.map fun rule => Text.upper rule.1).Nodup
  options : ∀ rule ∈ config.options, (OrderedMap.keys rule.2).Nodup
  short : ∀ rule ∈ config.options, ∀ entry ∈ rule.2, IsShort entry.2

section Lines
variable {escapes : Char → Bool} (covers : EscapesControls escapes)
variable {bound : Nat} {draft : Draft} {lists rules : Table}

theorem isKeyPart_tool : Toml.IsKeyPart "tool".toList "tool" :=
  (Toml.isKeyPart_ofList ['t', 'o', 'o', 'l'] (List.cons_ne_nil _ _) rfl :)

theorem isKeyPart_pslint : Toml.IsKeyPart "pslint".toList "pslint" :=
  (Toml.isKeyPart_ofList ['p', 's', 'l', 'i', 'n', 't'] (List.cons_ne_nil _ _) rfl :)

theorem takes_section (enough : 2 ≤ bound) : Takes bound {} (headerLine ["tool".toList, "pslint".toList]) opened :=
  Toml.takes_header (.cons isKeyPart_tool (.cons isKeyPart_pslint .nil)) (List.cons_ne_nil _ _) enough rfl

section Values
include covers

theorem takes_names (holds : Holds draft lists []) (current : draft.current = sectionPath) {name : String}
    (new : name ∉ OrderedMap.keys lists) (other : name ≠ "rules") (key : Toml.IsKeyPart name.toList name)
    (names : List String) (enough : names.length + 3 ≤ bound) :
    ∃ next, Takes bound draft (namesLine escapes name names) next ∧ Holds next (lists ++ [(name, listOf names)]) [] ∧
      next.current = sectionPath := by
  obtain ⟨bound, rfl⟩ : ∃ smaller, bound = smaller + 1 := ⟨bound - 1, by omega⟩
  obtain ⟨next, defined, after, stays⟩ := holds.define_names rfl current new other names
  refine ⟨next, Toml.takes_definition key (fun _ => rfl) (fun rest => ?_) defined, after, stays⟩
  exact Toml.readValue_writtenTexts covers names enough ('\n' :: rest)

/-- An option value is read back. -/
theorem readValue_writtenScalar {scalar : Scalar} (short : IsShort scalar) (rest : List Char) :
    Toml.readValue (bound + 1) Toml.nestingRoom (writtenScalar escapes scalar ++ '\n' :: rest) =
      .ok (valueOf scalar, '\n' :: rest) := by
  cases scalar with
  | int value => exact Toml.readValue_integer rest short bound Toml.nestingRoom
  | text value => exact Toml.readValue_writtenText covers _ bound value (by decide) rest
  | bool value => cases value <;> rfl

end Values

section Rules
variable {name : String} (apart : "rules" ∉ OrderedMap.keys lists) (new : name ∉ OrderedMap.keys rules)
include covers apart new

theorem takes_rule (holds : Holds draft lists rules) (enough : 4 ≤ bound) :
    ∃ next, Takes bound draft
        (headerLine ["tool".toList, "pslint".toList, "rules".toList, writtenText escapes name]) next ∧
      Holds next lists (rules ++ [(name, .table [])]) ∧ next.current = rulePath name := by
  have rulesPart : Toml.IsKeyPart "rules".toList "rules" :=
    (Toml.isKeyPart_ofList ['r', 'u', 'l', 'e', 's'] (List.cons_ne_nil _ _) rfl :)
  obtain ⟨next, opened, after, current⟩ := holds.openTable_rule apart new
  refine ⟨next, Toml.takes_header ?_ (List.cons_ne_nil _ _) enough opened, after, current⟩
  exact .cons isKeyPart_tool (.cons isKeyPart_pslint (.cons rulesPart
    (.cons (Toml.isKeyPart_writtenText covers name) .nil)))

variable {values more : OptionValues} (holds : Holds draft lists (rules ++ [(name, .table (tableOf values))]))
variable (current : draft.current = rulePath name)
include holds current

theorem takes_option {entry : String × Scalar} (fresh : entry.1 ∉ OrderedMap.keys values) (short : IsShort entry.2)
    (enough : 1 ≤ bound) :
    ∃ next, Takes bound draft (optionLine escapes entry) next ∧
      Holds next lists (rules ++ [(name, .table (tableOf (values ++ [entry])))]) ∧ next.current = rulePath name := by
  obtain ⟨bound, rfl⟩ := Nat.exists_eq_add_of_le' enough
  rw [← keys_tableOf] at fresh
  have single : (valueOf entry.2).isClosed = false := by
    cases entry.2 <;> rfl
  obtain ⟨next, defined, after, stays⟩ := holds.define_option apart new current fresh single
  have table : tableOf (values ++ [entry]) = tableOf values ++ [(entry.1, valueOf entry.2)] := List.map_append
  rw [← table] at after
  refine ⟨next, Toml.takes_definition (Toml.isKeyPart_writtenText covers entry.1) (fun rest => ?_)
    (readValue_writtenScalar covers short) defined, after, stays⟩
  cases entry.2 with
  | int value => exact Toml.skipBlanks_integer _ value
  | text value => rfl
  | bool value => cases value <;> rfl

/-- The option values of a rule are read one after the other. -/
theorem reads_options (distinct : (OrderedMap.keys (values ++ more)).Nodup) (short : ∀ entry ∈ more, IsShort entry.2)
    (enough : 1 ≤ bound) :
    ∃ final, Reads bound draft (more.map (optionLine escapes)) final ∧
      Holds final lists (rules ++ [(name, .table (tableOf (values ++ more)))]) := by
  induction more generalizing draft values with
  | nil => exact ⟨draft, .nil draft, by rwa [List.append_nil]⟩
  | cons entry more ih =>
    have fresh := OrderedMap.not_mem_of_nodup distinct
    have regrouped : values ++ entry :: more = values ++ [entry] ++ more := by
      rw [List.append_assoc, List.singleton_append]
    obtain ⟨next, taken, after, stays⟩ :=
      takes_option covers apart new holds current fresh (short entry (List.mem_cons_self ..)) enough
    rw [regrouped] at distinct ⊢
    obtain ⟨final, read, held⟩ := ih after stays distinct fun other member =>
      short other (List.mem_cons_of_mem _ member)
    exact ⟨final, .cons taken read, held⟩

end Rules

include covers in
/-- The tables of rules are read one after the other. -/
theorem reads_rules (apart : "rules" ∉ OrderedMap.keys lists) {done more : OrderedMap OptionValues}
    (holds : Holds draft lists (tablesOf done)) (distinct : (OrderedMap.keys (done ++ more)).Nodup)
    (options : ∀ rule ∈ more, (OrderedMap.keys rule.2).Nodup)
    (short : ∀ rule ∈ more, ∀ entry ∈ rule.2, IsShort entry.2) (enough : 4 ≤ bound) :
    ∃ final, Reads bound draft (more.flatMap (ruleLines escapes)) final ∧
      Holds final lists (tablesOf (done ++ more)) := by
  induction more generalizing draft done with
  | nil => exact ⟨draft, .nil draft, by rwa [List.append_nil]⟩
  | cons rule more ih =>
    have new := OrderedMap.not_mem_of_nodup distinct
    rw [← keys_tablesOf] at new
    have regrouped : done ++ rule :: more = done ++ [rule] ++ more := by
      rw [List.append_assoc, List.singleton_append]
    obtain ⟨next, taken, after, stays⟩ := takes_rule covers apart new holds enough
    have one : 1 ≤ bound := by omega
    have empty : Holds next lists (tablesOf done ++ [(rule.1, .table (tableOf []))]) := after
    obtain ⟨last, read, held⟩ := reads_options covers apart new empty stays (options rule (List.mem_cons_self ..))
      (short rule (List.mem_cons_self ..)) one
    have table : tablesOf (done ++ [rule]) = tablesOf done ++ [(rule.1, .table (tableOf rule.2))] := List.map_append
    rw [List.nil_append, ← table] at held
    rw [regrouped] at distinct ⊢
    obtain ⟨final, others, rest⟩ := ih held distinct
      (fun other member => options other (List.mem_cons_of_mem _ member))
      (fun other member => short other (List.mem_cons_of_mem _ member))
    rw [List.flatMap_cons]
    exact ⟨final, (Reads.cons taken read).append others, rest⟩

end Lines

section Document
variable {escapes : Char → Bool} (covers : EscapesControls escapes) {config : Config}

def listsOf (config : Config) : Table :=
  (config.select.map fun names => ("select", listOf names)).toList ++ [("ignore", listOf config.ignore)]

theorem rules_not_mem_listsOf (config : Config) : "rules" ∉ OrderedMap.keys (listsOf config) := by
  unfold listsOf
  cases config.select with
  | none => exact (by decide : "rules" ∉ ["ignore"])
  | some names => exact (by decide : "rules" ∉ ["select", "ignore"])

/-- What the document of a configuration holds. -/
def rootOf (config : Config) : Table := underSection (listsOf config ++ rulesEntry (tablesOf config.options))

include covers

theorem reads_lists {bound : Nat} (long : ∀ line ∈ lines escapes config, line.length ≤ bound) :
    ∃ next, Reads bound opened ((config.select.map (namesLine escapes "select")).toList ++
      [namesLine escapes "ignore" config.ignore]) next ∧ Holds next (listsOf config) [] := by
  have room {name : String} {names : List String} (member : namesLine escapes name names ∈ lines escapes config) :
      names.length + 3 ≤ bound := by
    have bounded := long _ member
    have items := length_le_namesLine escapes name names
    omega
  have select : Toml.IsKeyPart "select".toList "select" :=
    (Toml.isKeyPart_ofList ['s', 'e', 'l', 'e', 'c', 't'] (List.cons_ne_nil _ _) rfl :)
  have ignore : Toml.IsKeyPart "ignore".toList "ignore" :=
    (Toml.isKeyPart_ofList ['i', 'g', 'n', 'o', 'r', 'e'] (List.cons_ne_nil _ _) rfl :)
  have ignored : namesLine escapes "ignore" config.ignore ∈ lines escapes config :=
    List.mem_cons_of_mem _ (List.mem_append_right _ (List.mem_cons_self ..))
  unfold listsOf
  cases selected : config.select with
  | none =>
    obtain ⟨next, taken, holds, -⟩ :=
      takes_names covers holds_opened rfl List.not_mem_nil (by decide) ignore config.ignore (room ignored)
    exact ⟨next, .cons taken (.nil next), holds⟩
  | some names =>
    have given : namesLine escapes "select" names ∈ lines escapes config := by
      refine List.mem_cons_of_mem _ (List.mem_append_left _ ?_)
      rw [selected]
      exact List.mem_singleton.mpr rfl
    obtain ⟨middle, first, between, current⟩ :=
      takes_names covers holds_opened rfl List.not_mem_nil (by decide) select names (room given)
    obtain ⟨next, second, holds, -⟩ :=
      takes_names covers between current (by decide : "ignore" ∉ ["select"]) (by decide) ignore config.ignore
        (room ignored)
    exact ⟨next, .cons first (.cons second (.nil next)), holds⟩

theorem reads_lines (writable : config.IsWritable) {bound : Nat}
    (long : ∀ line ∈ lines escapes config, line.length ≤ bound) :
    ∃ final, Reads bound {} (lines escapes config) final ∧ final.root = rootOf config := by
  have header : (headerLine ["tool".toList, "pslint".toList]).length ≤ bound := long _ (List.mem_cons_self ..)
  have ignored : (namesLine escapes "ignore" config.ignore).length ≤ bound :=
    long _ (List.mem_cons_of_mem _ (List.mem_append_right _ (List.mem_cons_self ..)))
  have four : 4 ≤ bound := by
    have items := length_le_namesLine escapes "ignore" config.ignore
    omega
  have distinct : (OrderedMap.keys ([] ++ config.options)).Nodup := by
    have upper := writable.rules
    rw [← Function.comp_def, ← List.map_map] at upper
    exact List.Nodup.of_map _ upper
  have parts : 2 ≤ (headerLine ["tool".toList, "pslint".toList]).length :=
    length_le_headerLine ["tool".toList, "pslint".toList]
  have opening := takes_section (Nat.le_trans parts header)
  obtain ⟨middle, lists, between⟩ := reads_lists covers long
  have empty : Holds middle (listsOf config) (tablesOf []) := between
  obtain ⟨final, rules, holds⟩ :=
    reads_rules covers (rules_not_mem_listsOf config) empty distinct writable.options writable.short four
  refine ⟨final, .cons opening ?_, holds.root⟩
  have whole := lists.append rules
  rwa [List.append_assoc, List.singleton_append] at whole

omit covers in
theorem return_not_mem_headerLine {parts : List (List Char)} (clean : ∀ part ∈ parts, '\r' ∉ part) :
    '\r' ∉ headerLine parts := by
  rw [headerLine, List.mem_append, List.mem_cons, not_or, not_or]
  exact ⟨⟨by decide, Toml.return_not_mem_dotted clean⟩, by decide⟩

omit covers in
theorem return_not_mem_valueLine {name value : List Char} (first : '\r' ∉ name) (second : '\r' ∉ value) :
    '\r' ∉ valueLine name value := by
  rw [valueLine, List.mem_append, List.mem_cons, List.mem_cons, List.mem_cons]
  rintro (inside | space | equals | space | inside)
  · exact first inside
  · cases space
  · cases equals
  · cases space
  · exact second inside

theorem return_not_mem_writtenScalar (scalar : Scalar) : '\r' ∉ writtenScalar escapes scalar := by
  cases scalar with
  | int value => exact Toml.return_not_mem_integer value
  | text value => exact Toml.return_not_mem_writtenText covers value
  | bool value =>
    cases value with
    | false => exact (by decide +kernel : '\r' ∉ "false".toList)
    | true => exact (by decide +kernel : '\r' ∉ "true".toList)

theorem return_not_mem_lines : ∀ line ∈ lines escapes config, '\r' ∉ line := by
  have tool : '\r' ∉ "tool".toList := by decide +kernel
  have pslint : '\r' ∉ "pslint".toList := by decide +kernel
  have rules : '\r' ∉ "rules".toList := by decide +kernel
  have names {name : String} (clean : '\r' ∉ name.toList) (names : List String) :
      '\r' ∉ namesLine escapes name names :=
    return_not_mem_valueLine clean (Toml.return_not_mem_writtenTexts covers names)
  intro line member
  rcases List.mem_cons.mp member with rfl | member
  · refine return_not_mem_headerLine ?_
    simp only [List.forall_mem_cons, List.not_mem_nil, IsEmpty.forall_iff, implies_true, and_true]
    exact ⟨tool, pslint⟩
  rcases List.mem_append.mp member with selected | member
  · obtain ⟨chosen, -, rfl⟩ := Option.map_eq_some_iff.mp (Option.mem_toList.mp selected)
    exact names (by decide +kernel) chosen
  rcases List.mem_cons.mp member with rfl | member
  · exact names (by decide +kernel) config.ignore
  obtain ⟨rule, -, member⟩ := List.mem_flatMap.mp member
  rcases List.mem_cons.mp member with rfl | member
  · refine return_not_mem_headerLine ?_
    simp only [List.forall_mem_cons, List.not_mem_nil, IsEmpty.forall_iff, implies_true, and_true]
    exact ⟨tool, pslint, rules, Toml.return_not_mem_writtenText covers rule.1⟩
  · obtain ⟨entry, -, rfl⟩ := List.mem_map.mp member
    exact return_not_mem_valueLine (Toml.return_not_mem_writtenText covers entry.1)
      (return_not_mem_writtenScalar covers entry.2)

/-- A written configuration is a document, whatever characters its names and texts have. -/
theorem parse_written (writable : config.IsWritable) : Toml.parse (written escapes config) = .ok (rootOf config) :=
  Toml.parse_of_reads (return_not_mem_lines covers) fun _ long => reads_lines covers writable long

end Document

section Configuration
variable {config : Config}

theorem optionValues_tableOf (values : OptionValues) : optionValues (tableOf values) = values := by
  rw [optionValues, tableOf, List.filterMap_map]
  have whole (entry : String × Scalar) : (scalar? (valueOf entry.2)).map (entry.1, ·) = some entry := by
    obtain ⟨key, scalar⟩ := entry
    cases scalar <;> rfl
  exact (List.filterMap_congr fun entry _ => whole entry).trans List.filterMap_some

theorem filterMap_tablesOf (rules : OrderedMap OptionValues) :
    (tablesOf rules).filterMap ruleEntry? = rules.map fun rule => (Text.upper rule.1, rule.2) := by
  rw [tablesOf, List.filterMap_map, ← List.filterMap_eq_map]
  refine List.filterMap_congr fun rule _ => ?_
  show some (Text.upper rule.1, optionValues (tableOf rule.2)) = _
  rw [optionValues_tableOf]
  rfl

/-- What the section of a written configuration holds. -/
def asWritten (config : Config) : Written where
  select := config.select
  ignore := some config.ignore
  rules := if config.options.isEmpty then none else some (tablesOf config.options)

theorem describes_rootOf (config : Config) : (asWritten config).Describes (rootOf config) := by
  obtain ⟨select, ignore, options⟩ := config
  refine ⟨_, rfl, ?_⟩
  cases select <;> cases options <;> exact ⟨rfl, rfl, rfl⟩

theorem ofDocument_rootOf (writable : config.IsWritable) :
    ofDocument (rootOf config) = .ok config.withUpperNames := by
  rw [Written.ofDocument_eq (describes_rootOf config)]
  have tables : (asWritten config).rules.getD [] = tablesOf config.options := by
    obtain ⟨select, ignore, options⟩ := config
    cases options <;> rfl
  have distinct : (OrderedMap.keys (config.options.map fun rule => (Text.upper rule.1, rule.2))).Nodup := by
    rw [OrderedMap.keys, List.map_map]
    exact writable.rules
  rw [Written.config, tables, filterMap_tablesOf, OrderedMap.ofPairs_of_nodup distinct]
  rfl

end Configuration

/-- A configuration file that a configuration is written to holds it again, with the names of rules in upper
case and with the option values of each rule in their order. -/
theorem load_written {escapes : Char → Bool} {config : Config} {workspace : Workspace} {start : Option Path}
    {path : Path} {location : Location} (covers : EscapesControls escapes) (writable : config.IsWritable)
    (closest : closest? workspace (start.getD workspace.currentPath) = .ok (some path))
    (leads : workspace.find path = .ok (location, .file (Text.Utf8.encode (written escapes config)))) :
    load workspace start = ⟨[.configLoaded path], .ok config.withUpperNames⟩ := by
  have parsed : document (Text.Utf8.encode (written escapes config)) = .ok (some (rootOf config)) := by
    rw [document, Text.Utf8.decode_encode]
    dsimp only
    rw [parse_written covers writable]
  rw [load_of_closest closest leads, ofBytes_of_document parsed, ofDocument_rootOf writable]
  rfl

section Samples

/-- A configuration whose names and texts have marks that mean something in a document. -/
def intricate : Config where
  select := some ["say \"]\"", "a\nb"]
  ignore := ["#"]
  options := [("rule.1", [("", .text "\\"), ("x = [", .int (-12)), ("on", .bool true)])]

example : written Toml.isControl intricate =
    "[tool.pslint]\nselect = [\"say \\\"]\\\"\", \"a\\u000ab\"]\nignore = [\"#\"]\n" ++
      "[tool.pslint.rules.\"rule.1\"]\n\"\" = \"\\\\\"\n\"x = [\" = -12\n\"on\" = true\n" := by
  decide +kernel

def intricateHere : Workspace where
  tree := ⟨[([fileName], .file (Text.Utf8.encode (written Toml.isControl intricate)))]⟩
  directory := []

/-- Marks in names and texts mean nothing once they are written. -/
theorem load_written_intricate :
    load intricateHere none = ⟨[.configLoaded ⟨"/", [fileName]⟩], .ok {
      select := some ["SAY \"]\"", "A\nB"]
      ignore := ["#"]
      options := [("RULE.1", [("", .text "\\"), ("x = [", .int (-12)), ("on", .bool true)])] }⟩ := by
  have writable : intricate.IsWritable := by
    refine ⟨by decide +kernel, ?_, ?_⟩ <;>
      simp only [intricate, List.forall_mem_cons, List.not_mem_nil, IsEmpty.forall_iff, implies_true, and_true] <;>
      decide +kernel
  have upper : intricate.withUpperNames = {
      select := some ["SAY \"]\"", "A\nB"]
      ignore := ["#"]
      options := [("RULE.1", [("", .text "\\"), ("x = [", .int (-12)), ("on", .bool true)])] } := by
    decide +kernel
  rw [← upper]
  exact load_written Toml.escapesControls_isControl writable rfl rfl

end Samples

end ScriptLint.Config
