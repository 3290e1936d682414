import ScriptLint.Proofs.Config.Shape
import ScriptLint.Proofs.Settings.Chain
import ScriptLint.Proofs.Text.Case

/-! # What a configuration calls the rule and its options

A name in a configuration means the rule against long lines exactly if it spells `PSAvoidLongLines`, where a
long s may stand for an s and a dotless i for an i; a name of an option has the letters of ASCII only.
Selecting, ignoring and configuring the rule depend on the names that spell it and on nothing else.
-/

namespace ScriptLint

open Toml (Table Value)

namespace Config

/-- The names that a value stands for, as they are written. -/
def writtenNames : Value → List String
  | .array items => items.filterMap asText?
  | .table entries => OrderedMap.keys entries
  | .text name => name.toList.map String.singleton
  | _ => []

theorem namesIn_eq_map_writtenNames (value : Value) : namesIn value = (writtenNames value).map Text.upper := by
  cases value with
  | text name =>
    rw [writtenNames, List.map_map]
    rfl
  | _ => rfl

theorem eq_configIn_of_ofDocument {root : Table} {config : Config} (holds : ofDocument root = .ok config) :
    config = configIn root := by
  rw [ofDocument_eq_orFault] at holds
  cases found : firstFault? root with
  | some fault =>
    rw [found] at holds
    cases holds
  | none =>
    rw [found] at holds
    exact (Except.ok.inj holds).symm

end Config

namespace LongLines

open Config (asTable? lastUnder? offers optionValues rulesIn writtenNames)

/-- Whether a name means the rule. -/
def IsMeantBy (name : String) : Prop := Text.Spells Text.upperSubstitutes shippedName name

instance (name : String) : Decidable (IsMeantBy name) := inferInstanceAs (Decidable (Text.Spells _ _ _))

section Names
variable {name : String}

theorem isAlpha_of_mem_shippedName : ∀ letter ∈ shippedName.toList, letter.isAlpha = true :=
  List.all_eq_true.mp (by decide +kernel)

theorem upper_eq_shippedKey_iff : Text.upper name = shippedKey ↔ IsMeantBy name := by
  have key : shippedKey = Text.upper shippedName := by decide +kernel
  rw [key]
  exact Text.upper_eq_upper_iff isAlpha_of_mem_shippedName (by decide +kernel) name

/-- A name means an option exactly if it is the name of the option, in any mixture of cases. -/
theorem named?_eq_some_iff_spells (rule : LongLines) {option : RuleOption} :
    RuleOption.named? (Settings.schema rule.settings.options) name = some option ↔
      (option = RuleOption.enable ∧ Text.Spells [] "Enable" name) ∨
        (option = lineLengthOption ∧ Text.Spells [] "LineLength" name) := by
  have enable : Text.lower name = Text.lower RuleOption.enable.name ↔ Text.Spells [] "Enable" name :=
    Text.lower_eq_lower_iff_of_no_k (List.all_eq_true.mp (by decide +kernel)) (by decide +kernel) name
  have length : Text.lower name = Text.lower lineLengthOption.name ↔ Text.Spells [] "LineLength" name :=
    Text.lower_eq_lower_iff_of_no_k (List.all_eq_true.mp (by decide +kernel)) (by decide +kernel) name
  rw [RuleOption.named?_eq_some_iff]
  constructor
  · rintro ⟨last, same⟩
    rcases List.mem_cons.mp (RuleOption.mem_of_named? last.named?).1 with rfl | other
    · exact .inl ⟨rfl, enable.mp same.symm⟩
    · obtain rfl := List.mem_singleton.mp other
      exact .inr ⟨rfl, length.mp same.symm⟩
  · rintro (⟨rfl, spelled⟩ | ⟨rfl, spelled⟩)
    · exact ⟨⟨[], [lineLengthOption], rfl, by decide +kernel⟩, (enable.mpr spelled).symm⟩
    · exact ⟨⟨[RuleOption.enable], [], rfl, by decide⟩, (length.mpr spelled).symm⟩

/-- Entries under other names than those of the options can be left out. -/
theorem configure_filter_spelled (rule : LongLines) (entries : List (String × Offer)) :
    rule.configure (entries.filter fun entry =>
      Text.Spells [] "Enable" entry.1 ∨ Text.Spells [] "LineLength" entry.1) = rule.configure entries := by
  have accepted : (entries.filter fun entry =>
      Text.Spells [] "Enable" entry.1 ∨ Text.Spells [] "LineLength" entry.1).filterMap
        (Settings.accepted? rule.settings.options) =
      entries.filterMap (Settings.accepted? rule.settings.options) := by
    rw [List.filterMap_filter]
    refine List.filterMap_congr fun entry _ => ?_
    rw [ite_eq_left_iff, decide_eq_true_eq]
    intro other
    have unnamed : RuleOption.named? (Settings.schema rule.settings.options) entry.1 = none := by
      rw [Option.eq_none_iff_forall_ne_some]
      intro option named
      exact other ((named?_eq_some_iff_spells rule).mp named |>.imp And.right And.right)
    rw [Settings.accepted?, unnamed]
  simp only [configure, Settings.configure, accepted]

end Names

section Document
variable {root : Table} {config : Config}

theorem contains_shippedKey (value : Value) :
    (Config.namesIn value).contains shippedKey = (writtenNames value).any fun name => IsMeantBy name := by
  rw [Bool.eq_iff_iff, Config.namesIn_eq_map_writtenNames]
  simp only [List.contains_eq_mem, decide_eq_true_eq, List.mem_map, upper_eq_shippedKey_iff, List.any_eq_true]

variable (holds : Config.ofDocument root = .ok config) (preferred : Option String) (rule : LongLines)
include holds

theorem result_selects_of_document :
    (config.selects (Strings.shippedFor preferred) (.longLines rule)).result =
      .ok (((Value.table root).at? ["tool", "pslint", "select"]).all fun value =>
        (writtenNames value).any fun name => IsMeantBy name) := by
  obtain rfl := Config.eq_configIn_of_ofDocument holds
  unfold Config.selects Config.configIn
  cases (Value.table root).at? ["tool", "pslint", "select"] with
  | none => rfl
  | some value =>
    simp only [Option.map_some, Traced.result_bind, result_key_shipped, Except.bind, Traced.result_pure,
      contains_shippedKey, Option.all_some]

theorem result_ignores_of_document :
    (config.ignores (Strings.shippedFor preferred) (.longLines rule)).result =
      .ok (((Value.table root).at? ["tool", "pslint", "ignore"]).any fun value =>
        (writtenNames value).any fun name => IsMeantBy name) := by
  obtain rfl := Config.eq_configIn_of_ofDocument holds
  simp only [Config.ignores, Traced.result_bind, result_key_shipped, Except.bind, Traced.result_pure, Config.configIn]
  cases (Value.table root).at? ["tool", "pslint", "ignore"] with
  | none => rfl
  | some value => simp only [Option.map_some, Option.getD_some, contains_shippedKey, Option.any_some]

theorem result_configured?_of_document :
    (config.configured? (Strings.shippedFor preferred) (.longLines rule)).result =
      .ok ((lastUnder? (fun name => IsMeantBy name) asTable? (rulesIn root)).bind fun entries =>
        (Rule.longLines rule).configure (offers (optionValues entries))) := by
  obtain rfl := Config.eq_configIn_of_ofDocument holds
  simp only [Config.configured?, Traced.result_bind, result_key_shipped, Except.bind, Traced.result_pure,
    Config.find?_options_configIn, upper_eq_shippedKey_iff]
  cases lastUnder? (fun name => IsMeantBy name) asTable? (rulesIn root) <;> rfl

end Document

/-- What means the rule and its options: their spellings and no other name, wherever a document has it. -/
theorem meant_by_spellings (preferred : Option String) (rule : LongLines) :
    (∀ name, ((Rule.longLines rule).key (Strings.shippedFor preferred)).result = .ok (Text.upper name) ↔
      IsMeantBy name) ∧
    (∀ name, IsMeantBy name → name.length = 16 ∧ ∀ c ∈ name.toList, (Text.upperChar c).length = 1) ∧
    (∀ name option, RuleOption.named? (Settings.schema rule.settings.options) name = some option ↔
      (option = RuleOption.enable ∧ Text.Spells [] "Enable" name) ∨
        (option = lineLengthOption ∧ Text.Spells [] "LineLength" name)) ∧
    (∀ entries, rule.configure (entries.filter fun entry =>
      Text.Spells [] "Enable" entry.1 ∨ Text.Spells [] "LineLength" entry.1) = rule.configure entries) ∧
    ∀ root config, Config.ofDocument root = .ok config →
      (config.selects (Strings.shippedFor preferred) (.longLines rule)).result =
        .ok (((Value.table root).at? ["tool", "pslint", "select"]).all fun value =>
          (writtenNames value).any fun name => IsMeantBy name) ∧
      (config.ignores (Strings.shippedFor preferred) (.longLines rule)).result =
        .ok (((Value.table root).at? ["tool", "pslint", "ignore"]).any fun value =>
          (writtenNames value).any fun name => IsMeantBy name) ∧
      (config.configured? (Strings.shippedFor preferred) (.longLines rule)).result =
        .ok ((lastUnder? (fun name => IsMeantBy name) asTable? (rulesIn root)).bind fun entries =>
          (Rule.longLines rule).configure (offers (optionValues entries))) := by
  refine ⟨fun name => ?_, fun name spelled => ⟨spelled.length_eq, ?_⟩,
    fun name option => named?_eq_some_iff_spells rule, configure_filter_spelled rule,
    fun root config holds => ⟨result_selects_of_document holds preferred rule,
      result_ignores_of_document holds preferred rule, result_configured?_of_document holds preferred rule⟩⟩
  · rw [result_key_shipped, Except.ok.injEq, eq_comm]
    exact upper_eq_shippedKey_iff
  · exact Text.Spells.length_upperChar isAlpha_of_mem_shippedName spelled

section Samples

/-- A document that means the rule by a long s and dotless i, among names with a sharp s, a letter too much,
and a dotless i in the name of an option. -/
def substitutedRoot : Table :=
  [("tool", .table [("pslint", .table [
    ("select", .array [.text "PSAvoidLongLine\u00DF", .text "p\u017Favo\u0131dLONGl\u0131ne\u017F"]),
    ("ignore", .table [("PSAvoidLongLine\u00DF", .integer 0), ("PSAvoidLongLiness", .integer 0)]),
    ("rules", .table [
      ("P\u017FAvoidLongLines", .table [("ENABLE", .boolean true), ("lineLENGTH", .integer 7),
        ("L\u0131neLength", .integer 3)]),
      ("PSAvoidLongL\u0130nes", .table [("Enable", .boolean false)])])])])]

/-- The rule is kept and has the two values whose keys are spelled in ASCII. -/
theorem meant_by_spellings_substituted : ∃ config, Config.ofDocument substitutedRoot = .ok config ∧
    (config.selects (Strings.shippedFor none) (.longLines {})).result = .ok true ∧
    (config.ignores (Strings.shippedFor none) (.longLines {})).result = .ok false ∧
    (config.configured? (Strings.shippedFor none) (.longLines {})).result =
      .ok (some (.longLines { enable := true, lineLength := 7 })) := by
  have shaped : Config.ofDocument substitutedRoot = .ok (Config.configIn substitutedRoot) := by
    have faultless : Config.firstFault? substitutedRoot = none := by decide +kernel
    rw [Config.ofDocument_eq_orFault, faultless]
    rfl
  obtain ⟨-, -, -, -, outcome⟩ := meant_by_spellings none {}
  obtain ⟨selected, ignored, configured⟩ := outcome _ _ shaped
  refine ⟨_, shaped, selected.trans (congrArg _ (by decide +kernel)), ignored.trans (congrArg _ (by decide +kernel)),
    configured.trans (congrArg _ ?_)⟩
  have meant : lastUnder? (fun name => IsMeantBy name) asTable? (rulesIn substitutedRoot) =
      some [("ENABLE", .boolean true), ("lineLENGTH", .integer 7), ("L\u0131neLength", .integer 3)] := rfl
  have changed : LongLines.configure {} (offers (optionValues
      [("ENABLE", .boolean true), ("lineLENGTH", .integer 7), ("L\u0131neLength", .integer 3)])) =
        some { enable := true, lineLength := 7 } := by
    decide +kernel
  rw [meant, Option.bind_some, Rule.configure, changed]
  rfl

end Samples

end LongLines

end ScriptLint
