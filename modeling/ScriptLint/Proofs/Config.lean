import ScriptLint.Config
import ScriptLint.Proofs.LongLines
import ScriptLint.Proofs.LongLines.Options

/-! # Applying a configuration

Where the names of rules can be told, selecting is a filter and configuring a map over the rules. For
the built-in rule under the shipped texts this gives the rule itself: it is run with the last values
that the configuration has for its options.
-/

namespace ScriptLint

namespace Config

/-- Whether a configuration keeps the rules of a name in upper case. -/
def allows (config : Config) (key : String) : Bool :=
  (match config.select with
    | none => true
    | some names => names.contains key) &&
  !config.ignore.contains key

variable {strings : Strings} {config : Config}

theorem result_keeps {rule : Rule} {key : String} (keyed : (rule.key strings).result = .ok key) :
    (config.keeps strings rule).result = .ok (config.allows key) := by
  have ignored : (config.ignores strings rule).result = .ok (config.ignore.contains key) := by
    simp only [ignores, Traced.result_bind, keyed, Except.bind, Traced.result_pure]
  unfold keeps selects allows
  cases config.select with
  | none =>
    simp only [Traced.result_bind, Traced.result_pure, Except.bind, ↓reduceIte, ignored, Bool.true_and]
  | some names =>
    simp only [Traced.result_bind, keyed, Except.bind, Traced.result_pure]
    cases names.contains key with
    | false => rfl
    | true =>
      simp only [↓reduceIte, Traced.result_bind, ignored, Except.bind, Traced.result_pure, Bool.true_and]

section
variable {keyOf : Rule → String} {rules : List Rule}
variable (keyed : ∀ rule ∈ rules, (rule.key strings).result = .ok (keyOf rule))
include keyed

theorem result_filterRules :
    (config.filterRules strings rules).result = .ok (rules.filter fun rule => config.allows (keyOf rule)) := by
  induction rules with
  | nil => rfl
  | cons rule rest ih =>
    have own : (config.keeps strings rule).result = .ok (config.allows (keyOf rule)) :=
      result_keeps (keyed rule (List.mem_cons_self ..))
    have others := ih fun other member => keyed other (List.mem_cons_of_mem _ member)
    simp only [filterRules, Traced.result_bind, own, others, Except.bind, Traced.result_pure, List.filter_cons]

theorem result_configureRules :
    (config.configureRules strings rules).result = .ok (rules.map fun rule =>
      ((config.options.find? (keyOf rule)).bind fun values => rule.configure (offers values)).getD rule) := by
  induction rules with
  | nil => rfl
  | cons rule rest ih =>
    have own := keyed rule (List.mem_cons_self ..)
    have others := ih fun other member => keyed other (List.mem_cons_of_mem _ member)
    simp only [configureRules, configured?, Traced.result_bind, own, others, Except.bind, Traced.result_pure,
      List.map_cons]
    cases config.options.find? (keyOf rule) <;> rfl

theorem result_apply :
    (config.apply strings rules).result =
      .ok ((rules.filter fun rule => config.allows (keyOf rule)).map fun rule =>
        ((config.options.find? (keyOf rule)).bind fun values => rule.configure (offers values)).getD rule) := by
  have kept : ∀ rule ∈ rules.filter fun rule => config.allows (keyOf rule),
      (rule.key strings).result = .ok (keyOf rule) :=
    fun rule member => keyed rule (List.mem_filter.mp member).1
  simp only [apply, Traced.result_bind, result_filterRules keyed, Except.bind, result_configureRules kept]

end

end Config

namespace LongLines

def shippedKey : String := "PSAVOIDLONGLINES"

theorem result_key_shipped (preferred : Option String) (rule : LongLines) :
    ((Rule.longLines rule).key (Strings.shippedFor preferred)).result = .ok shippedKey := by
  have named : ((Rule.longLines rule).name (Strings.shippedFor preferred)).result = .ok shippedName :=
    result_name_shipped preferred
  have upper : Text.upper shippedName = shippedKey := by decide +kernel
  simp only [Rule.key, Traced.result_bind, named, Except.bind, Traced.result_pure, upper]

def enableValue? (entry : String × Scalar) : Option Bool :=
  enableOffer? (entry.1, .scalar entry.2)

def lengthValue? (entry : String × Scalar) : Option Int :=
  lengthOffer? (entry.1, .scalar entry.2)

/-- The last word of option values on enabling the rule. -/
def lastEnable? (values : OptionValues) : Option Bool :=
  (values.filterMap enableValue?).getLast?

/-- The last word of option values on the maximum. -/
def lastLength? (values : OptionValues) : Option Int :=
  (values.filterMap lengthValue?).getLast?

/-- The rule as option values set it. -/
def configuredBy (values : OptionValues) : LongLines where
  enable := (lastEnable? values).getD false
  lineLength := (lastLength? values).getD 120

theorem getD_configure_offers (values : OptionValues) :
    ((Rule.longLines {}).configure (Config.offers values)).getD (.longLines {}) =
      .longLines (configuredBy values) := by
  have configured := getD_configure {} (Config.offers values)
  simp only [Config.offers, List.filterMap_map] at configured
  change (((({} : LongLines).configure (Config.offers values)).map Rule.longLines).getD (.longLines {})) = _
  rw [Option.getD_map Rule.longLines]
  exact congrArg Rule.longLines configured

/-- The built-in rules that a configuration leaves, under the shipped texts. -/
theorem result_apply_builtin (preferred : Option String) (config : Config) :
    (config.apply (Strings.shippedFor preferred) Rule.builtin).result =
      .ok (if config.allows shippedKey then
        [.longLines (configuredBy ((config.options.find? shippedKey).getD []))] else []) := by
  have keyed : ∀ rule ∈ Rule.builtin, (rule.key (Strings.shippedFor preferred)).result = .ok shippedKey := by
    intro rule member
    obtain rfl := List.mem_singleton.mp member
    exact result_key_shipped preferred {}
  rw [Config.result_apply keyed, Rule.builtin]
  cases config.allows shippedKey with
  | false => rfl
  | true =>
    simp only [List.filter_cons_of_pos, List.filter_nil, List.map_cons, List.map_nil, ↓reduceIte]
    congr 2
    cases config.options.find? shippedKey with
    | none => rfl
    | some values => exact getD_configure_offers values

end LongLines

end ScriptLint
