import ScriptLint.LongLines
import ScriptLint.Proofs.Settings

/-! # Configuring the rule against long lines

The rule has two options. After any entries each has the last value of its type that was offered under
some spelling of its name, or else the value before; other entries do not matter.
-/

namespace ScriptLint.LongLines

/-- The truth value that an entry offers for enabling the rule. -/
def enableOffer? (entry : String × Offer) : Option Bool :=
  if Text.lower entry.1 = "enable" then
    match entry.2 with
    | .scalar (.bool value) => some value
    | _ => none
  else none

/-- The integer that an entry offers for the maximum. -/
def lengthOffer? (entry : String × Offer) : Option Int :=
  if Text.lower entry.1 = "linelength" then
    match entry.2 with
    | .scalar (.int value) => some value
    | _ => none
  else none

theorem offered?_enable (entry : String × Offer) :
    RuleOption.enable.offered? entry = (enableOffer? entry).map .bool := by
  have name : Text.lower RuleOption.enable.name = "enable" := by decide +kernel
  unfold RuleOption.offered? enableOffer?
  rw [name]
  split
  · obtain ⟨_, offer⟩ := entry
    cases offer with
    | foreign => rfl
    | scalar value => cases value <;> rfl
  · rfl

theorem offered?_lineLengthOption (entry : String × Offer) :
    lineLengthOption.offered? entry = (lengthOffer? entry).map .int := by
  have name : Text.lower lineLengthOption.name = "linelength" := by decide +kernel
  unfold RuleOption.offered? lengthOffer?
  rw [name]
  split
  · obtain ⟨_, offer⟩ := entry
    cases offer with
    | foreign => rfl
    | scalar value => cases value <;> rfl
  · rfl

private theorem distinct_slots :
    ((Settings.schema [lineLengthOption]).map RuleOption.slot).Nodup := by
  decide

private theorem named?_enable :
    RuleOption.named? (Settings.schema [lineLengthOption]) RuleOption.enable.name = some RuleOption.enable := by
  decide +kernel

private theorem named?_lineLengthOption :
    RuleOption.named? (Settings.schema [lineLengthOption]) lineLengthOption.name = some lineLengthOption := by
  decide +kernel

/-- The rule after the values that entries set has the last value that was offered for each option. -/
theorem getD_configure (rule : LongLines) (entries : List (String × Offer)) :
    (rule.configure entries).getD rule =
      { enable := (entries.filterMap enableOffer?).getLast?.getD rule.enable
        lineLength := (entries.filterMap lengthOffer?).getLast?.getD rule.lineLength } := by
  have enabled := Settings.find?_insertAll_accepted distinct_slots named?_enable entries rule.settings.values
  have length := Settings.find?_insertAll_accepted distinct_slots named?_lineLengthOption entries
    rule.settings.values
  simp only [funext offered?_enable, funext offered?_lineLengthOption, ← List.map_filterMap,
    List.getLast?_map] at enabled length
  have configured : (rule.configure entries).getD rule = ofSettings { rule.settings with
      values := OrderedMap.insertAll ((entries.filterMap (Settings.accepted? [lineLengthOption])).map
        Settings.slotEntry) rule.settings.values } := by
    unfold configure Settings.configure
    split
    next none =>
      have same : entries.filterMap (Settings.accepted? [lineLengthOption]) = [] := none
      rw [same]
      rfl
    next => rfl
  rw [configured]
  unfold ofSettings
  simp only [enabled, length]
  cases (entries.filterMap enableOffer?).getLast? <;> cases (entries.filterMap lengthOffer?).getLast? <;> rfl

end ScriptLint.LongLines
