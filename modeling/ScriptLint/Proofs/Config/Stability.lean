import Mathlib.Data.List.Forall2
import ScriptLint.Proofs.Analysis
import ScriptLint.Proofs.Config
import ScriptLint.Proofs.Settings.Chain

/-! # Applying a configuration is stable

Configuring a rule leaves its name alone, so it does not matter whether rules are selected before or after
they are configured, and what a configuration gave it gives again. Only a rule whose name cannot be told
stands in the way, the first one of them. A rule comes through as it is unless the configuration has a value
that one of its options takes.
-/

namespace ScriptLint

namespace Rule

variable {strings : Strings} {rule after : Rule} {entries : List (String × Offer)}

/-- The name of a rule, empty if it cannot be told. -/
def toldName (strings : Strings) (rule : Rule) : String :=
  (rule.name strings).result.toOption.getD ""

theorem result_name_of_isNamed (named : rule.isNamed strings = true) :
    (rule.name strings).result = .ok (rule.toldName strings) := by
  unfold isNamed at named
  unfold toldName
  cases told : (rule.name strings).result with
  | error cause => simp only [told, Bool.false_eq_true] at named
  | ok name => rfl

theorem name_of_configure (changed : rule.configure entries = some after) :
    after.name strings = rule.name strings := by
  cases rule with
  | longLines own =>
    obtain ⟨_, -, rfl⟩ := Option.map_eq_some_iff.mp changed
    rfl
  | supplied own =>
    simp only [configure] at changed
    split at changed
    next => contradiction
    next =>
      obtain ⟨_, -, rfl⟩ := Option.map_eq_some_iff.mp changed
      rfl

/-- A rule stays as it is exactly if no entry sets a value of one of its options. -/
theorem configure_eq_none_iff :
    rule.configure entries = none ↔
      ∀ settings, rule.settings? = some settings → ∀ entry ∈ entries, ¬ Settings.Accepts settings.options entry := by
  cases rule with
  | longLines own =>
    simp only [configure, LongLines.configure, Option.map_eq_none_iff, Settings.configure_eq_none_iff, settings?,
      Option.some.injEq, forall_eq']
  | supplied own =>
    cases has : own.settings with
    | none => simp only [configure, settings?, has, reduceCtorEq, false_implies, implies_true]
    | some settings =>
      simp only [configure, settings?, has, Option.map_eq_none_iff, Settings.configure_eq_none_iff,
        Option.some.injEq, forall_eq']

end Rule

namespace Settings

variable {settings after : Settings} {entries : List (String × Offer)}

theorem configure_again (changed : settings.configure entries = some after) :
    after.configure entries = some after := by
  have called : settings.afterCall entries = after := congrArg (Option.getD · settings) changed
  have options : after.options = settings.options := by rw [← called, afterCall_eq]
  have again : after.afterCall entries = after := by rw [← called, afterCall_again]
  cases outcome : after.configure entries with
  | none =>
    rw [configure_eq_none_iff, options, ← configure_eq_none_iff, changed] at outcome
    contradiction
  | some last =>
    rw [afterCall, outcome] at again
    exact congrArg some again

end Settings

namespace LongLines

variable {rule after : LongLines} {entries : List (String × Offer)}

theorem configure_again (changed : rule.configure entries = some after) : after.configure entries = some after := by
  have called := getD_configure rule entries
  have again := getD_configure after entries
  rw [changed] at called
  cases outcome : after.configure entries with
  | none =>
    have unchanged : rule.configure entries = none := by
      rw [configure, Option.map_eq_none_iff, Settings.configure_eq_none_iff] at outcome ⊢
      exact outcome
    rw [unchanged] at changed
    contradiction
  | some last =>
    rw [outcome, Option.getD_some] at again
    rw [Option.getD_some] at called
    rw [again, called]
    cases (entries.filterMap enableOffer?).getLast? <;> cases (entries.filterMap lengthOffer?).getLast? <;> rfl

end LongLines

namespace Rule

variable {strings : Strings} {rule after : Rule} {entries : List (String × Offer)}

/-- What entries set they can set again. -/
theorem configure_again (changed : rule.configure entries = some after) : after.configure entries = some after := by
  cases rule with
  | longLines own =>
    obtain ⟨other, configured, rfl⟩ := Option.map_eq_some_iff.mp changed
    exact congrArg (Option.map Rule.longLines) (LongLines.configure_again configured)
  | supplied own =>
    simp only [configure] at changed
    split at changed
    next => contradiction
    next settings has =>
      obtain ⟨other, configured, rfl⟩ := Option.map_eq_some_iff.mp changed
      simp only [configure, Settings.configure_again configured, Option.map_some]

end Rule

namespace Config

variable {strings : Strings} {config : Config} {rule : Rule} {rules : List Rule}

/-- The name by which a configuration means a rule, if it can be told. -/
def keyOf (strings : Strings) (rule : Rule) : String := Text.upper (rule.toldName strings)

/-- A rule with the values that a configuration has for it. -/
def settled (strings : Strings) (config : Config) (rule : Rule) : Rule :=
  ((config.options.find? (keyOf strings rule)).bind fun values => rule.configure (offers values)).getD rule

theorem result_key_of_isNamed (named : rule.isNamed strings = true) :
    (rule.key strings).result = .ok (keyOf strings rule) := by
  simp only [Rule.key, Traced.result_bind, Rule.result_name_of_isNamed named, Except.bind, Traced.result_pure, keyOf]

theorem result_configured? (named : rule.isNamed strings = true) :
    (config.configured? strings rule).result =
      .ok ((config.options.find? (keyOf strings rule)).bind fun values => rule.configure (offers values)) := by
  simp only [configured?, Traced.result_bind, result_key_of_isNamed named, Except.bind, Traced.result_pure]
  cases config.options.find? (keyOf strings rule) <;> rfl

theorem name_settled (strings : Strings) (config : Config) (rule : Rule) :
    (settled strings config rule).name strings = rule.name strings := by
  unfold settled
  cases changed : (config.options.find? (keyOf strings rule)).bind fun values => rule.configure (offers values) with
  | none => rfl
  | some after =>
    obtain ⟨values, -, configured⟩ := Option.bind_eq_some_iff.mp changed
    exact Rule.name_of_configure configured

theorem keyOf_settled (strings : Strings) (config : Config) (rule : Rule) :
    keyOf strings (settled strings config rule) = keyOf strings rule := by
  simp only [keyOf, Rule.toldName, name_settled]

theorem isNamed_settled (strings : Strings) (config : Config) (rule : Rule) :
    (settled strings config rule).isNamed strings = rule.isNamed strings := by
  simp only [Rule.isNamed, name_settled]

/-- A rule that was configured stays as it is when it is configured again. -/
theorem settled_settled (strings : Strings) (config : Config) (rule : Rule) :
    settled strings config (settled strings config rule) = settled strings config rule := by
  have key := keyOf_settled strings config rule
  cases changed : (config.options.find? (keyOf strings rule)).bind fun values => rule.configure (offers values) with
  | none =>
    have unchanged : settled strings config rule = rule := by rw [settled, changed, Option.getD_none]
    rw [unchanged, unchanged]
  | some after =>
    obtain ⟨values, held, configured⟩ := Option.bind_eq_some_iff.mp changed
    have same : settled strings config rule = after := by rw [settled, changed, Option.getD_some]
    rw [same] at key ⊢
    rw [settled, key, held, Option.bind_some, Rule.configure_again configured, Option.getD_some]

section Named
variable (named : ∀ rule ∈ rules, rule.isNamed strings = true)
include named

theorem result_filterRules_of_isNamed :
    (config.filterRules strings rules).result = .ok (rules.filter fun rule => config.allows (keyOf strings rule)) :=
  result_filterRules fun rule member => result_key_of_isNamed (named rule member)

theorem result_configureRules_of_isNamed :
    (config.configureRules strings rules).result = .ok (rules.map (settled strings config)) :=
  result_configureRules fun rule member => result_key_of_isNamed (named rule member)

theorem result_apply_of_isNamed :
    (config.apply strings rules).result =
      .ok ((rules.filter fun rule => config.allows (keyOf strings rule)).map (settled strings config)) :=
  result_apply fun rule member => result_key_of_isNamed (named rule member)

/-- Rules may be selected after they were configured. -/
theorem result_filterRules_settled :
    (config.filterRules strings (rules.map (settled strings config))).result =
      .ok ((rules.filter fun rule => config.allows (keyOf strings rule)).map (settled strings config)) := by
  have named' : ∀ rule ∈ rules.map (settled strings config), rule.isNamed strings = true := by
    intro after member
    obtain ⟨rule, own, rfl⟩ := List.mem_map.mp member
    rw [isNamed_settled]
    exact named rule own
  rw [result_filterRules_of_isNamed named', List.filter_map]
  simp only [Function.comp_def, keyOf_settled]

/-- Rules that were selected and configured are all selected again, and stay as they are. -/
theorem result_apply_settled :
    (config.apply strings ((rules.filter fun rule => config.allows (keyOf strings rule)).map
        (settled strings config))).result =
      .ok ((rules.filter fun rule => config.allows (keyOf strings rule)).map (settled strings config)) := by
  have named' : ∀ rule ∈ (rules.filter fun rule => config.allows (keyOf strings rule)).map (settled strings config),
      rule.isNamed strings = true := by
    intro after member
    obtain ⟨rule, kept, rfl⟩ := List.mem_map.mp member
    rw [isNamed_settled]
    exact named rule (List.mem_filter.mp kept).1
  rw [result_apply_of_isNamed named', List.filter_map]
  simp only [Function.comp_def, keyOf_settled, List.filter_filter, Bool.and_self, List.map_map, settled_settled]

end Named

section Unnamed
variable {front back : List Rule} {cause : Failure}

theorem result_key_of_unnamed (unnamed : (rule.name strings).result = .error cause) :
    (rule.key strings).result = .error cause := by
  simp only [Rule.key, Traced.result_bind, unnamed, Except.bind]

theorem result_keeps_of_unnamed (unnamed : (rule.name strings).result = .error cause) :
    (config.keeps strings rule).result = .error cause := by
  have key := result_key_of_unnamed unnamed
  unfold keeps selects
  cases config.select with
  | none => simp only [ignores, Traced.result_bind, Traced.result_pure, Except.bind, ↓reduceIte, key]
  | some names => simp only [Traced.result_bind, Except.bind, key]

/-- Selecting fails with the first rule whose name cannot be told. -/
theorem result_filterRules_of_unnamed (named : ∀ rule ∈ front, rule.isNamed strings = true)
    (unnamed : (rule.name strings).result = .error cause) :
    (config.filterRules strings (front ++ rule :: back)).result = .error cause := by
  induction front with
  | nil => simp only [List.nil_append, filterRules, Traced.result_bind, result_keeps_of_unnamed unnamed, Except.bind]
  | cons first rest ih =>
    have own : (config.keeps strings first).result = .ok (config.allows (keyOf strings first)) :=
      result_keeps (result_key_of_isNamed (named first (List.mem_cons_self ..)))
    have others := ih fun other member => named other (List.mem_cons_of_mem _ member)
    simp only [List.cons_append, filterRules, Traced.result_bind, own, others, Except.bind]

/-- Configuring fails with the first rule whose name cannot be told. -/
theorem result_configureRules_of_unnamed (named : ∀ rule ∈ front, rule.isNamed strings = true)
    (unnamed : (rule.name strings).result = .error cause) :
    (config.configureRules strings (front ++ rule :: back)).result = .error cause := by
  induction front with
  | nil =>
    simp only [List.nil_append, configureRules, configured?, Traced.result_bind, result_key_of_unnamed unnamed,
      Except.bind]
  | cons first rest ih =>
    have own := @result_configured? strings config _ (named first (List.mem_cons_self ..))
    have others := ih fun other member => named other (List.mem_cons_of_mem _ member)
    simp only [List.cons_append, configureRules, Traced.result_bind, own, others, Except.bind]

end Unnamed

/-- Whether a rule comes out of a configuration as another one: under its own name, and as it is unless the
configuration changes it. -/
def TurnsInto (strings : Strings) (config : Config) (rule after : Rule) : Prop :=
  after.name strings = rule.name strings ∧
    ∃ changed, (config.configured? strings rule).result = .ok changed ∧ after = changed.getD rule

theorem turnsInto_settled (named : rule.isNamed strings = true) :
    TurnsInto strings config rule (settled strings config rule) :=
  ⟨name_settled strings config rule, _, result_configured? named, rfl⟩

/-- A rule comes through as it is exactly if it has no options, or the configuration has no value for its
name that one of them takes. -/
theorem configured?_eq_none_iff (named : rule.isNamed strings = true) :
    (config.configured? strings rule).result = .ok none ↔
      ∀ settings, rule.settings? = some settings →
        ∀ values, config.options.find? (keyOf strings rule) = some values →
          ∀ entry ∈ values, ¬ Settings.Accepts settings.options (entry.1, .scalar entry.2) := by
  rw [result_configured? named, Except.ok.injEq, Option.bind_eq_none_iff]
  simp only [Rule.configure_eq_none_iff, offers, List.forall_mem_map]
  exact ⟨fun idle settings has values held => idle values held settings has,
    fun idle values held settings has => idle settings has values held⟩

/-- What a configuration makes of rules whose names can be told: it keeps those that it selects and does not
ignore, in order, and configures each of them under its own name. Selecting may come before or after that,
and doing both again changes nothing. A rule stays as it is if it has no options or none of them takes a value
that the configuration has for its name. Otherwise the first rule whose name cannot be told decides the
failure. -/
theorem apply_stable (strings : Strings) (config : Config) (rules : List Rule) :
    (∀ nameOf : Rule → String, (∀ rule ∈ rules, (rule.name strings).result = .ok (nameOf rule)) →
      ∃ configured applied,
        (config.filterRules strings rules).result =
          .ok (rules.filter fun rule => config.allows (Text.upper (nameOf rule))) ∧
        (config.configureRules strings rules).result = .ok configured ∧
        List.Forall₂ (TurnsInto strings config) rules configured ∧
        (config.filterRules strings configured).result = .ok applied ∧
        (config.apply strings rules).result = .ok applied ∧
        (config.apply strings applied).result = .ok applied ∧
        ∀ rule ∈ rules, (config.configured? strings rule).result = .ok none ↔
          ∀ settings, rule.settings? = some settings →
            ∀ values, config.options.find? (Text.upper (nameOf rule)) = some values →
              ∀ entry ∈ values, ¬ Settings.Accepts settings.options (entry.1, .scalar entry.2)) ∧
    ∀ front rule back cause, rules = front ++ rule :: back →
      (∀ earlier ∈ front, earlier.isNamed strings = true) → (rule.name strings).result = .error cause →
        (config.filterRules strings rules).result = .error cause ∧
          (config.configureRules strings rules).result = .error cause ∧
          (config.apply strings rules).result = .error cause := by
  constructor
  · intro nameOf names
    have named : ∀ rule ∈ rules, rule.isNamed strings = true := by
      intro rule member
      simp only [Rule.isNamed, names rule member]
    have keys : ∀ rule ∈ rules, keyOf strings rule = Text.upper (nameOf rule) := by
      intro rule member
      simp only [keyOf, Rule.toldName, names rule member, Except.toOption, Option.getD_some]
    refine ⟨_, _, ?_, result_configureRules_of_isNamed named, ?_, result_filterRules_settled named,
      result_apply_of_isNamed named, result_apply_settled named, ?_⟩
    · rw [result_filterRules_of_isNamed named]
      congr 1
      apply List.filter_congr
      intro rule member
      rw [keys rule member]
    · apply List.forall₂_map_right_iff.mpr
      exact List.forall₂_same.mpr fun rule member => turnsInto_settled (named rule member)
    · intro rule member
      rw [← keys rule member]
      exact configured?_eq_none_iff (named rule member)
  · rintro front rule back cause rfl named unnamed
    have selecting : (config.filterRules strings (front ++ rule :: back)).result = .error cause :=
      result_filterRules_of_unnamed named unnamed
    refine ⟨selecting, result_configureRules_of_unnamed named unnamed, ?_⟩
    simp only [apply, Traced.result_bind, selecting, Except.bind]

section Samples

/-- A rule without options. -/
def plainRule : Rule := .supplied {
  name := pure "Plain"
  commonName := pure "plain"
  description := pure ""
  severity := .error
  sourceName := pure ""
  analyze := fun _ _ _ => pure [] }

/-- A configuration that ignores the rule without options and has values under several spellings, one of them
refused. -/
def respelling : Config where
  ignore := ["PLAIN"]
  options := [("PLAIN", [("Enable", .bool false)]),
    ("PSAVOIDLONGLINES", [("enable", .bool true), ("LineLength", .text "5"), ("LINELENGTH", .int 0)])]

/-- The names of the sample rules. -/
def sampleName : Rule → String
  | .longLines _ => LongLines.shippedName
  | .supplied _ => "Plain"

theorem apply_stable_respelling :
    (respelling.apply (Strings.shippedFor none) [.longLines {}, plainRule, .longLines {}]).result =
        .ok [.longLines ⟨true, 0⟩, .longLines ⟨true, 0⟩] ∧
      (respelling.apply (Strings.shippedFor none) [.longLines ⟨true, 0⟩, .longLines ⟨true, 0⟩]).result =
        .ok [.longLines ⟨true, 0⟩, .longLines ⟨true, 0⟩] ∧
      (respelling.configured? (Strings.shippedFor none) plainRule).result = .ok none := by
  have names : ∀ rule ∈ [Rule.longLines {}, plainRule, .longLines {}],
      (rule.name (Strings.shippedFor none)).result = .ok (sampleName rule) := by
    simp only [List.forall_mem_cons]
    exact ⟨LongLines.result_name_shipped none, rfl, LongLines.result_name_shipped none, fun _ member =>
      absurd member List.not_mem_nil⟩
  obtain ⟨⟨_, applied, -, -, -, -, first, again, same⟩, -⟩ :=
    And.imp_left (· sampleName names) (apply_stable (Strings.shippedFor none) respelling
      [.longLines {}, plainRule, .longLines {}])
  have outcome : (respelling.apply (Strings.shippedFor none) [.longLines {}, plainRule, .longLines {}]).result =
      .ok [.longLines ⟨true, 0⟩, .longLines ⟨true, 0⟩] := by
    rfl
  obtain rfl := Except.ok.inj (first.symm.trans outcome)
  refine ⟨outcome, again, (same plainRule (by simp)).mpr ?_⟩
  intro settings has
  contradiction

end Samples

end Config

end ScriptLint
