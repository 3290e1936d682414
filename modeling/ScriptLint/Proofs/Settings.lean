import Mathlib.Data.List.Nodup
import ScriptLint.Proofs.OrderedMap
import ScriptLint.Settings

/-! # The last word of an option

After any entries the value of an option is the last one that was offered under its name and has its
type, or else the value before. This holds for every option that its name means, as long as the slots
of the options differ.
-/

namespace ScriptLint

namespace RuleOption

/-- The value that an entry offers for an option: its name and its type must fit. -/
def offered? (option : RuleOption) (entry : String × Offer) : Option Scalar :=
  if Text.lower entry.1 = Text.lower option.name then option.coerce entry.2 else none

theorem named?_congr (schema : List RuleOption) {name other : String}
    (same : Text.lower name = Text.lower other) : named? schema name = named? schema other := by
  simp only [named?, same]

theorem mem_of_named? {schema : List RuleOption} {name : String} {option : RuleOption}
    (meant : named? schema name = some option) :
    option ∈ schema ∧ Text.lower option.name = Text.lower name := by
  have fits := List.find?_some meant
  exact ⟨List.mem_reverse.mp (List.mem_of_find?_eq_some meant), beq_iff_eq.mp fits⟩

end RuleOption

namespace Settings

/-- The entry for a slot that a change stands for. -/
def slotEntry (change : RuleOption × Scalar) : String × Scalar := (change.1.slot, change.2)

section
variable {options : List RuleOption} {option : RuleOption}
variable (distinct : ((schema options).map RuleOption.slot).Nodup)
variable (meant : RuleOption.named? (schema options) option.name = some option)
include distinct meant

/-- An entry sets the slot of an option exactly by a value that it offers for the option. -/
theorem valueAt?_accepted (entry : String × Offer) :
    ((accepted? options entry).map slotEntry).bind (OrderedMap.valueAt? option.slot) =
      option.offered? entry := by
  have member := (RuleOption.mem_of_named? meant).1
  unfold accepted?
  cases named : RuleOption.named? (schema options) entry.1 with
  | none =>
    have foreign : Text.lower entry.1 ≠ Text.lower option.name := by
      intro same
      rw [RuleOption.named?_congr _ same, meant] at named
      contradiction
    simp only [Option.map_none, Option.bind_none, RuleOption.offered?, foreign, ↓reduceIte]
  | some other =>
    obtain ⟨otherMember, otherName⟩ := RuleOption.mem_of_named? named
    by_cases same : other = option
    · subst same
      simp only [RuleOption.offered?, otherName, ↓reduceIte]
      cases other.coerce entry.2 with
      | none => rfl
      | some value => simp only [Option.map_some, Option.bind_some, slotEntry, OrderedMap.valueAt?, ↓reduceIte]
    · -- The entry means another option, and options do not share slots.
      have otherSlot : other.slot ≠ option.slot := fun slots =>
        same (List.inj_on_of_nodup_map distinct otherMember member slots)
      have foreign : Text.lower entry.1 ≠ Text.lower option.name := by
        intro names
        rw [RuleOption.named?_congr _ names, meant] at named
        exact same (Option.some.inj named).symm
      simp only [RuleOption.offered?, foreign, ↓reduceIte]
      cases other.coerce entry.2 with
      | none => rfl
      | some value =>
        simp only [Option.map_some, Option.bind_some, slotEntry, OrderedMap.valueAt?, otherSlot, ↓reduceIte]

/-- The last offer for an option is its value after all entries. -/
theorem find?_insertAll_accepted (entries : List (String × Offer)) (values : OrderedMap Scalar) :
    (OrderedMap.insertAll ((entries.filterMap (accepted? options)).map slotEntry) values).find? option.slot =
      (entries.filterMap option.offered?).getLast?.or (values.find? option.slot) := by
  rw [OrderedMap.find?_insertAll, OrderedMap.last?, List.filterMap_map, List.filterMap_filterMap]
  congr 2
  refine List.filterMap_congr fun entry _ => ?_
  rw [← valueAt?_accepted distinct meant entry, Option.bind_map]

end

end Settings

end ScriptLint
