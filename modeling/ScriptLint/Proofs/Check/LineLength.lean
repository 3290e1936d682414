import Mathlib
import ScriptLint.Check
import ScriptLint.Proofs.Check.Targets
import ScriptLint.Proofs.Check.Transcript
import ScriptLint.Proofs.Config.Section

/-! # The line length of a command

A command with a line length puts its two values into the option table of the rule under their exact
names, in the places where these names stand already, and the rule takes the last value that some
spelling of an option name has. So the command prevails unless the last value of the right type that
comes after the place of its own, under another spelling, says something else.
-/

namespace ScriptLint

namespace Check

open LongLines (lastEnable? lastLength? enableValue? lengthValue? configuredBy shippedKey)

/-- The values that come after that of the command for enabling the rule. -/
def laterEnable (values : OptionValues) : OptionValues := values.after RuleOption.enable.name

def laterLength (values : OptionValues) : OptionValues := values.after LongLines.lineLengthOption.name

/-- The rule that a command with a line length runs. -/
def forced (lineLength : Int) (values : OptionValues) : LongLines where
  enable := (lastEnable? (laterEnable values)).getD true
  lineLength := (lastLength? (laterLength values)).getD lineLength

/-- Whether the last later words, if there are any, agree with the command. -/
def Prevails (lineLength : Int) (values : OptionValues) : Prop :=
  (∀ enable, lastEnable? (laterEnable values) = some enable → enable = true) ∧
    ∀ other, lastLength? (laterLength values) = some other → other = lineLength

theorem getD_eq_default_iff {α : Type} (found : Option α) (default : α) :
    found.getD default = default ↔ ∀ value, found = some value → value = default := by
  cases found with
  | none => simp only [Option.getD_none, reduceCtorEq, false_implies, implies_true]
  | some value => simp only [Option.getD_some, Option.some.injEq, forall_eq']

theorem forced_eq_iff (lineLength : Int) (values : OptionValues) :
    forced lineLength values = ⟨true, lineLength⟩ ↔ Prevails lineLength values := by
  rw [forced, LongLines.mk.injEq, getD_eq_default_iff, getD_eq_default_iff, Prevails]

section Words

private theorem enableValue?_lineLength (value : Scalar) :
    enableValue? (LongLines.lineLengthOption.name, value) = none := by
  have other : ¬ Text.lower LongLines.lineLengthOption.name = "enable" := by decide +kernel
  simp only [enableValue?, LongLines.enableOffer?, other, ↓reduceIte]

private theorem lengthValue?_enable (value : Scalar) :
    lengthValue? (RuleOption.enable.name, value) = none := by
  have other : ¬ Text.lower RuleOption.enable.name = "linelength" := by decide +kernel
  simp only [lengthValue?, LongLines.lengthOffer?, other, ↓reduceIte]

private theorem enableValue?_true : enableValue? (RuleOption.enable.name, .bool true) = some true := by
  decide +kernel

private theorem lengthValue?_own (lineLength : Int) :
    lengthValue? (LongLines.lineLengthOption.name, .int lineLength) = some lineLength := by
  have same : Text.lower LongLines.lineLengthOption.name = "linelength" := by decide +kernel
  simp only [lengthValue?, LongLines.lengthOffer?, same, ↓reduceIte]

/-- The rule as the values of the command and those of the configuration set it together. -/
theorem configuredBy_overridden (lineLength : Int) (values : OptionValues) :
    configuredBy (overridden lineLength values) = forced lineLength values := by
  have enable : lastEnable? (overridden lineLength values) =
      some ((lastEnable? (laterEnable values)).getD true) := by
    unfold lastEnable? overridden laterEnable
    -- The maximum is no word on enabling the rule, wherever it stands.
    rw [OrderedMap.filterMap_insert_of_passed enableValue?_lineLength,
      OrderedMap.getLast?_filterMap_insert enableValue?_true]
  have length : lastLength? (overridden lineLength values) =
      some ((lastLength? (laterLength values)).getD lineLength) := by
    have different : RuleOption.enable.name ≠ LongLines.lineLengthOption.name := by decide
    unfold lastLength? overridden laterLength
    rw [OrderedMap.getLast?_filterMap_insert (lengthValue?_own lineLength),
      OrderedMap.filterMap_after_insert_of_passed lengthValue?_enable different]
  rw [configuredBy, enable, length]
  rfl

end Words

section Rules
variable {workspace : Workspace} {config : Config}

theorem result_withLineLength (preferred : Option String) (lineLength : Int) (config : Config) :
    (withLineLength (Strings.shippedFor preferred) (some lineLength) config).result =
      .ok { config with
        options := config.options.insert shippedKey
          (overridden lineLength ((config.options.find? shippedKey).getD [])) } := by
  simp only [withLineLength, Traced.result_bind, LongLines.result_key_shipped, Except.bind, Traced.result_pure]

/-- A command with a line length runs the rule against long lines if the configuration keeps it. -/
theorem result_rules {preferred : Option String} (loaded : (Config.load workspace none).result = .ok config)
    (lineLength : Int) :
    (rules (Strings.shippedFor preferred) workspace (some lineLength)).result =
      .ok (if config.allows shippedKey then
        [.longLines (forced lineLength ((config.options.find? shippedKey).getD []))] else []) := by
  simp only [rules, Traced.result_bind, loaded, Except.bind, result_withLineLength,
    LongLines.result_apply_builtin, OrderedMap.find?_insert_self, Option.getD_some, configuredBy_overridden]
  rfl

end Rules

/-- Checking files depends on what stands in these files only. -/
theorem files_congr {workspace other : Workspace} {paths : List Path}
    (same : ∀ path ∈ paths, other.read path = workspace.read path) (strings : Strings) (rules : List Rule) :
    files strings other rules paths = files strings workspace rules paths := by
  induction paths with
  | nil => rfl
  | cons path rest ih =>
    have script : Script.load other path = Script.load workspace path := by
      rw [Script.load, Script.load, same path (List.mem_cons_self ..)]
    have others := ih fun path member => same path (List.mem_cons_of_mem _ member)
    simp only [files, analyzePath, script, others]

/-- New bytes for a configuration file that lead to the same rules do not show, as long as the file
itself is not checked. -/
theorem sameAnswer_rewrite {print : String → String} {strings : Strings} {workspace : Workspace}
    {lineLength : Option Int} {location : Location} {old bytes : List UInt8} {arguments : List Path}
    (present : workspace.tree.content? location = some (.file old))
    (last : location.getLast? = some Config.fileName)
    (elsewhere : ∀ argument ∈ arguments, ∀ content, workspace.find argument ≠ .ok (location, content))
    (same : (rules strings workspace lineLength).result =
      (rules strings (workspace.write location (.file bytes)) lineLength).result) :
    Transcript.SameAnswer print (run strings workspace lineLength arguments)
      (run strings (workspace.write location (.file bytes)) lineLength arguments) := by
  unfold run
  split
  next => exact ⟨rfl, rfl⟩
  next =>
    refine Transcript.sameAnswer_follow same fun rules _ => ?_
    rw [targets_rewrite present]
    split
    next => exact ⟨rfl, rfl⟩
    next paths expanded =>
      -- Neither an argument nor a script below a directory is the configuration file.
      have unread : ∀ path ∈ paths,
          (workspace.write location (.file bytes)).read path = workspace.read path := by
        intro path member
        refine Workspace.read_rewrite_of_elsewhere present bytes fun content => ?_
        rcases mem_targets expanded member with asked | collected
        · exact elsewhere path asked content
        · exact find_ne_of_isCollected collected last content
      rw [files_congr unread]
      exact ⟨rfl, rfl⟩

section Prevailing
variable {workspace : Workspace} {path : Path} {location : Location} {bytes : List UInt8}
variable {document : Toml.Table} {written : Config.Written}

theorem result_rules_of_describes {preferred : Option String}
    (closest : Config.closest? workspace workspace.currentPath = .ok (some path))
    (leads : workspace.find path = .ok (location, .file bytes))
    (parsed : Config.document bytes = .ok (some document)) (describes : written.Describes document)
    (lineLength : Int) :
    (rules (Strings.shippedFor preferred) workspace (some lineLength)).result =
      .ok (if written.config.allows shippedKey then
        [.longLines (forced lineLength (written.values shippedKey))] else []) := by
  have loaded := Config.result_load closest leads parsed (Config.Written.ofDocument_eq describes)
  rw [result_rules loaded, Config.Written.getD_find?_options]

/-- Under a command that prevails over both, two configuration files that differ in the option tables
of rules only, where they keep the rule at all, give the same answer. -/
theorem sameAnswer_of_prevails {print : String → String} {preferred : Option String} {lineLength : Int}
    {otherBytes : List UInt8} {other : Toml.Table} {rewritten : Config.Written} {arguments : List Path}
    (closest : Config.closest? workspace workspace.currentPath = .ok (some path))
    (leads : workspace.find path = .ok (location, .file bytes))
    (parsed : Config.document bytes = .ok (some document)) (describes : written.Describes document)
    (otherParsed : Config.document otherBytes = .ok (some other)) (otherDescribes : rewritten.Describes other)
    (select : rewritten.select = written.select) (ignore : rewritten.ignore = written.ignore)
    (prevails : written.Keeps shippedKey → Prevails lineLength (written.values shippedKey) ∧
      Prevails lineLength (rewritten.values shippedKey))
    (elsewhere : ∀ argument ∈ arguments, ∀ content, workspace.find argument ≠ .ok (location, content)) :
    Transcript.SameAnswer print (run (Strings.shippedFor preferred) workspace (some lineLength) arguments)
      (run (Strings.shippedFor preferred) (workspace.write location (.file otherBytes)) (some lineLength)
        arguments) := by
  have present := (Workspace.content?_of_find leads).2
  have last := Workspace.getLast?_of_find leads (Config.getLast?_of_closest? closest) (by decide)
  have otherClosest := (Config.closest?_rewrite present otherBytes workspace.currentPath).trans closest
  have otherLeads := Workspace.find_rewrite_self present otherBytes leads
  have sameAllowed : rewritten.config.allows shippedKey = written.config.allows shippedKey := by
    simp only [Config.allows, Config.Written.config, select, ignore]
  refine sameAnswer_rewrite present last elsewhere ?_
  rw [result_rules_of_describes closest leads parsed describes,
    result_rules_of_describes otherClosest otherLeads otherParsed otherDescribes, sameAllowed]
  -- Where the rule is not kept, nothing needs to prevail: both commands run no rule at all.
  by_cases allowed : written.config.allows shippedKey = true
  · obtain ⟨own, others⟩ := prevails ((Config.Written.allows_config_iff shippedKey).mp allowed)
    rw [(forced_eq_iff lineLength _).mpr own, (forced_eq_iff lineLength _).mpr others]
  · rw [if_neg allowed, if_neg allowed]

/-- The line length of a command prevails exactly where `Prevails` says so. Then the option tables of
the configuration file do not show at all. -/
theorem lineLength_prevails (print : String → String) (preferred : Option String) (lineLength : Int)
    (closest : Config.closest? workspace workspace.currentPath = .ok (some path))
    (leads : workspace.find path = .ok (location, .file bytes))
    (parsed : Config.document bytes = .ok (some document)) (describes : written.Describes document) :
    (written.Keeps shippedKey →
      (rules (Strings.shippedFor preferred) workspace (some lineLength)).result =
        .ok [.longLines (forced lineLength (written.values shippedKey))] ∧
      ((rules (Strings.shippedFor preferred) workspace (some lineLength)).result =
          .ok [.longLines { enable := true, lineLength }] ↔
        Prevails lineLength (written.values shippedKey))) ∧
    (¬ written.Keeps shippedKey →
      (rules (Strings.shippedFor preferred) workspace (some lineLength)).result = .ok []) ∧
    ∀ (otherBytes : List UInt8) (other : Toml.Table) (rewritten : Config.Written) (arguments : List Path),
      Config.document otherBytes = .ok (some other) → rewritten.Describes other →
      rewritten.select = written.select → rewritten.ignore = written.ignore →
      (written.Keeps shippedKey → Prevails lineLength (written.values shippedKey) ∧
        Prevails lineLength (rewritten.values shippedKey)) →
      (∀ argument ∈ arguments, ∀ content, workspace.find argument ≠ .ok (location, content)) →
      Transcript.SameAnswer print
        (run (Strings.shippedFor preferred) workspace (some lineLength) arguments)
        (run (Strings.shippedFor preferred) (workspace.write location (.file otherBytes)) (some lineLength)
          arguments) := by
  have ran : (rules (Strings.shippedFor preferred) workspace (some lineLength)).result = _ :=
    result_rules_of_describes closest leads parsed describes lineLength
  refine ⟨fun keeps => ?_, fun dropped => ?_, ?_⟩
  · rw [ran, if_pos ((Config.Written.allows_config_iff shippedKey).mpr keeps)]
    refine ⟨rfl, ?_⟩
    rw [Except.ok.injEq, List.singleton_inj, Rule.longLines.injEq, forced_eq_iff]
  · rw [ran, if_neg fun allowed => dropped ((Config.Written.allows_config_iff shippedKey).mp allowed)]
  · intro otherBytes other rewritten arguments otherParsed otherDescribes select ignore prevails elsewhere
    exact sameAnswer_of_prevails closest leads parsed describes otherParsed otherDescribes select ignore
      prevails elsewhere

end Prevailing

section Samples

/-- A configuration file next to a script whose only line has two characters. -/
def sample (configuration : String) : Workspace where
  tree := ⟨[([Config.fileName], .file (Text.Utf8.encode configuration)), (["a.ps1"], .file [97, 98])]⟩
  directory := []

def samplePath : Path := ⟨"", ["a.ps1"]⟩

theorem closest?_sample (configuration : String) :
    Config.closest? (sample configuration) (sample configuration).currentPath =
      .ok (some ⟨"/", [Config.fileName]⟩) :=
  rfl

theorem find_sample (configuration : String) :
    (sample configuration).find ⟨"/", [Config.fileName]⟩ =
      .ok ([Config.fileName], .file (Text.Utf8.encode configuration)) :=
  rfl

/-- A document whose section has nothing but entries for rules. -/
def documentOf (rules : Toml.Table) : Toml.Table :=
  [("tool", .table [("pslint", .table [("rules", .table rules)])])]

theorem describes_documentOf (rules : Toml.Table) :
    Config.Written.Describes { rules := some rules } (documentOf rules) :=
  ⟨_, rfl, rfl, rfl, rfl⟩

theorem keeps_of_open (rules : Option Toml.Table) (key : String) : Config.Written.Keeps { rules } key := by
  refine ⟨fun names selected => ?_, fun name ignored => ?_⟩
  · cases selected
  · cases ignored

/-- A configuration that has the maximum under another spelling alone. -/
def lowerCase : String := "tool.pslint.rules.psavoidlonglines.linelength = 1"

def lowerCaseRules : Toml.Table := [("psavoidlonglines", .table [("linelength", .integer 1)])]

theorem lineLength_prevails_lowerCase :
    (rules (Strings.shippedFor none) (sample lowerCase) (some 2)).result =
        .ok [.longLines { enable := true, lineLength := 2 }] ∧
      Transcript.SameAnswer id
        (run (Strings.shippedFor none) (sample lowerCase) (some 2) [samplePath])
        (run (Strings.shippedFor none) ((sample lowerCase).write [Config.fileName] (.file [])) (some 2)
          [samplePath]) := by
  have parsed : Config.document (Text.Utf8.encode lowerCase) = .ok (some (documentOf lowerCaseRules)) := by
    cbv
  have prevails : Prevails 2 (Config.Written.values { rules := some lowerCaseRules } shippedKey) :=
    (forced_eq_iff ..).mp (by decide +kernel)
  have unforced : Prevails 2 (Config.Written.values {} shippedKey) :=
    (forced_eq_iff ..).mp (by decide +kernel)
  obtain ⟨kept, -, rewritten⟩ := lineLength_prevails id none 2 (closest?_sample _) (find_sample _) parsed
    (describes_documentOf lowerCaseRules)
  refine ⟨(kept (keeps_of_open _ _)).2.mpr prevails, ?_⟩
  refine rewritten [] [] {} [samplePath] rfl ⟨_, rfl, rfl, rfl, rfl⟩ rfl rfl
    (fun _ => ⟨prevails, unforced⟩) ?_
  intro argument member content leads
  obtain rfl := List.mem_singleton.mp member
  have elsewhere := Workspace.getLast?_of_find leads rfl (by decide)
  exact absurd elsewhere (by decide)

/-- A configuration that has the maximum under two spellings. -/
def twoSpellings : String := "[tool.pslint.rules.PSAvoidLongLines]\nLineLength = 5\nlinelength = 1\n"

def twoSpellingsRules : Toml.Table :=
  [("PSAvoidLongLines", .table [("LineLength", .integer 5), ("linelength", .integer 1)])]

set_option maxRecDepth 2000 in
/-- Where another spelling comes later, the configuration has the last word. -/
theorem lineLength_overruled :
    (rules (Strings.shippedFor none) (sample twoSpellings) (some 100)).result =
      .ok [.longLines { enable := true, lineLength := 1 }] := by
  have parsed : Config.document (Text.Utf8.encode twoSpellings) =
      .ok (some (documentOf twoSpellingsRules)) := by
    cbv
  have allowed : Config.allows (Config.Written.config { rules := some twoSpellingsRules }) shippedKey = true :=
    (Config.Written.allows_config_iff _).mpr (keeps_of_open _ _)
  have overruled :
      forced 100 (Config.Written.values { rules := some twoSpellingsRules } shippedKey) = ⟨true, 1⟩ := by
    decide +kernel
  rw [result_rules_of_describes (closest?_sample _) (find_sample _) parsed
    (describes_documentOf twoSpellingsRules), if_pos allowed, overruled]

end Samples

end Check

end ScriptLint
